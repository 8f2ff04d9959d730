import EdgePolicy.Proofs.Reconcile.Convergence
import EdgePolicy.Proofs.Zone.Interleaved

/-
Reconciling entries of distinct tags side by side.

Between two calls of a run the others may do what they like to rules of other tags: the container
stays the one that serves the phase, and the rules with the tag of the run stay as it found them.  A
rule that its position names may be gone by then; the creation is refused, and nothing is changed.
-/

set_option autoImplicit false
set_option relaxedAutoImplicit false

namespace EdgePolicy

open Session (Advance Leads wellFormed_logged)

namespace DesiredRule

variable {desired : DesiredRule} {zoneId containerId : String} {start session after : Session Store}
  {moves : List (Store × Store)} {runId : RunId}

def Takes (zoneId : String) (desired : DesiredRule) (before after : Session Store) : Prop :=
  ∃ calls, Advance zoneId (fun _ tag => tag ≠ desired.tag) calls before after

/-- What a step of a run gives to the others: edits of its tag, which is not carried twice then if
it was not before. -/
def Gives (zoneId : String) (desired : DesiredRule) (before after : Session Store) : Prop :=
  (∃ calls, Advance zoneId desired.targets calls before after) ∧
    ((desired.held zoneId before.platform).length ≤ 1 →
      (desired.held zoneId after.platform).length ≤ 1)

/-- A run that has changed nothing so far: the container it uses serves its phase, and the rules of
its tag are those of the start. -/
structure Pending (desired : DesiredRule) (zoneId containerId : String) (start : Session Store)
    (moves : List (Store × Store)) (now : Session Store) : Prop where
  wellFormed : now.platform.WellFormed
  serves : ∃ container, now.platform.serving? zoneId desired.category.phase = some container ∧
    container.summary.id = containerId
  available : now.logbook.available = start.logbook.available
  kept : desired.held zoneId now.platform = desired.held zoneId start.platform
  idle : ∀ move ∈ moves, move.2.containers = move.1.containers

/-- A run that has brought its rule to the desired state. -/
structure Done (desired : DesiredRule) (zoneId : String) (start now : Session Store) : Prop where
  wellFormed : now.platform.WellFormed
  available : now.logbook.available = start.logbook.available
  settled : desired.Settled zoneId now.platform

/-- How a run ends: its rule is as desired, or the run has changed nothing, unless it could not
record what it did. -/
structure Ends (zoneId : String) (start : Session Store) (desired : DesiredRule)
    (result : Except Error Outcome) (moves : List (Store × Store)) (now : Session Store) :
    Prop where
  wellFormed : now.platform.WellFormed
  ends : match result with
    | .ok _ => desired.Settled zoneId now.platform
    | .error _ => start.logbook.available = true →
      desired.held zoneId now.platform = desired.held zoneId start.platform ∧
        ∀ move ∈ moves, move.2.containers = move.1.containers

def sharing (zoneId : String) (start : Session Store) : Terms DesiredRule Outcome where
  takes := Takes zoneId
  gives := Gives zoneId
  ends := Ends zoneId start

theorem Takes.held (takes : desired.Takes zoneId session after)
    (wellFormed : session.platform.WellFormed) :
    desired.held zoneId after.platform = desired.held zoneId session.platform := by
  obtain ⟨calls, advance⟩ := takes
  exact held_of_framed (advance.edits.framed wellFormed) (.inr fun other => other rfl)

theorem Takes.wellFormed (takes : desired.Takes zoneId session after)
    (wellFormed : session.platform.WellFormed) : after.platform.WellFormed := by
  obtain ⟨calls, advance⟩ := takes
  exact advance.edits.wellFormed wellFormed

theorem Takes.settled (takes : desired.Takes zoneId session after)
    (wellFormed : session.platform.WellFormed) (settled : desired.Settled zoneId session.platform) :
    desired.Settled zoneId after.platform := by
  obtain ⟨rule?, was, accepted⟩ := settled
  exact ⟨rule?, (takes.held wellFormed).trans was, accepted⟩

theorem Takes.available (takes : desired.Takes zoneId session after) :
    after.logbook.available = session.logbook.available := by
  obtain ⟨calls, advance⟩ := takes
  exact advance.available

namespace Pending

theorem taken (pending : desired.Pending zoneId containerId start moves session)
    (takes : desired.Takes zoneId session after) :
    desired.Pending zoneId containerId start moves after := by
  obtain ⟨wellFormed, ⟨container, serves, same⟩, available, kept, idle⟩ := pending
  refine ⟨takes.wellFormed wellFormed, ?_, takes.available.trans available,
    (takes.held wellFormed).trans kept, idle⟩
  obtain ⟨calls, advance⟩ := takes
  obtain ⟨container', serves', persists⟩ :=
    (advance.edits.framed wellFormed).serving?_some serves
  exact ⟨container', serves', by rw [persists.summary, same]⟩

theorem unmoved (pending : desired.Pending zoneId containerId start moves session)
    {platform : Store} (containers : platform.containers = session.platform.containers)
    (issued : session.platform.issued ≤ platform.issued) :
    desired.Pending zoneId containerId start (moves ++ [(session.platform, platform)])
      { session with platform } := by
  obtain ⟨wellFormed, ⟨container, serves, same⟩, available, kept, idle⟩ := pending
  refine ⟨wellFormed.of_containers_eq containers issued, ⟨container, ?_, same⟩, available,
    (held_of_containers containers).trans kept,
    List.forall_mem_append.mpr ⟨idle, List.forall_mem_singleton.mpr containers⟩⟩
  unfold Store.serving? at serves ⊢
  rw [containers, serves]

theorem logged (pending : desired.Pending zoneId containerId start moves session) (call : Call) :
    desired.Pending zoneId containerId start
      (moves ++ [(session.platform, (session.logged call).platform)]) (session.logged call) :=
  pending.unmoved rfl (Nat.le_refl _)

theorem ends (pending : desired.Pending zoneId containerId start moves session) (fault : Error) :
    Ends zoneId start desired (.error fault) moves session :=
  ⟨pending.wellFormed, fun _ => ⟨pending.kept, pending.idle⟩⟩

theorem filter (pending : desired.Pending zoneId containerId start moves session) :
    ∃ container, session.platform.serving? zoneId desired.category.phase = some container ∧
      container.summary.id = containerId ∧
      container.rules.filter (·.tag == desired.tag) = desired.held zoneId start.platform := by
  obtain ⟨container, serves, same⟩ := pending.serves
  exact ⟨container, serves, same,
    (Store.tagged_of_serving serves _).symm.trans pending.kept⟩

theorem shape (pending : desired.Pending zoneId containerId start moves session)
    {old : RemoteRule} (only : desired.held zoneId start.platform = [old]) :
    ∃ container front back,
      session.platform.serving? zoneId desired.category.phase = some container ∧
      container.summary.id = containerId ∧ container.rules = front ++ old :: back ∧
      desired.targets desired.category.phase old.tag ∧
      front.filter (·.tag == desired.tag) = [] ∧ back.filter (·.tag == desired.tag) = [] := by
  obtain ⟨container, serves, same, tagged⟩ := pending.filter
  rw [only] at tagged
  obtain ⟨front, back, shape, here, inFront, inBack⟩ := filter_eq_singleton tagged
  exact ⟨container, front, back, serves, same, shape, targets_of_tag (by simpa using here),
    inFront, inBack⟩

end Pending

private theorem gives_logged (session : Session Store) (call : Call) :
    desired.Gives zoneId session (session.logged call) :=
  ⟨⟨_, .logged session call⟩, id⟩

private theorem gives_of_single {calls : List Call}
    (advance : Advance zoneId desired.targets calls session after)
    (single : (desired.held zoneId after.platform).length ≤ 1) :
    desired.Gives zoneId session after :=
  ⟨⟨calls, advance⟩, fun _ => single⟩

theorem Pending.settled (pending : desired.Pending zoneId containerId start moves session)
    {calls : List Call} (advance : Advance zoneId desired.targets calls session after)
    (rule? : Option RemoteRule) (held : desired.held zoneId after.platform = rule?.toList)
    (accepted : desired.Accepts rule?) :
    desired.Gives zoneId session after ∧ desired.Done zoneId start after := by
  have single : (desired.held zoneId after.platform).length ≤ 1 := by
    rw [held]
    exact Option.length_toList_le
  exact ⟨gives_of_single advance single, advance.edits.wellFormed pending.wellFormed,
    advance.available.trans pending.available, rule?, held, accepted⟩

private theorem find_guarded (pending : desired.Pending zoneId containerId start moves session) :
    (Procedure.findContainer zoneId desired.category.phase).Guarded runId (desired.Takes zoneId)
      (desired.Gives zoneId) (fun result moves now =>
        desired.Pending zoneId containerId start moves now ∧
          ∀ found, result = .ok found → found.map (·.id) = some containerId) moves session := by
  refine .bind (.request fun middle now takes => ?_)
  have pending' := pending.taken takes
  obtain ⟨container, serves, same⟩ := pending'.serves
  refine .request (fun fault _ => ⟨gives_logged middle _, pending'.logged _, nofun⟩) fun _ =>
    ⟨gives_logged middle _, pending'.logged _, fun found selected => ?_⟩
  cases selected
  rw [← same]
  show (ContainerSummary.select? ((middle.platform.containers.filter
    (·.zoneId == zoneId)).map (·.summary)) desired.category.phase).map (·.id) = _
  rw [Store.select?_summaries, serves]
  rfl

private theorem locate_guarded (pending : desired.Pending zoneId containerId start moves session) :
    (desired.locate zoneId).Guarded runId (desired.Takes zoneId) (desired.Gives zoneId)
      (fun result moves now => desired.Pending zoneId containerId start moves now ∧
        ∀ located, result = .ok located → located = some containerId) moves session := by
  unfold locate
  cases desired.body with
  | none =>
    refine .bind ((find_guarded pending).imp fun result moves now ⟨pending, found⟩ => ?_)
    cases result with
    | error fault => exact ⟨pending, nofun⟩
    | ok summary? =>
      refine ⟨pending, fun located same => ?_⟩
      cases same
      exact found summary? rfl
  | some body =>
    refine .bind (.bind ((find_guarded pending).imp fun result moves now ⟨pending, found⟩ => ?_))
    cases result with
    | error fault => exact ⟨pending, nofun⟩
    | ok summary? =>
      have here := found summary? rfl
      cases summary? with
      | none => nomatch here
      | some summary =>
        refine ⟨pending, fun located same => ?_⟩
        cases same
        exact here

def Settles {α : Type} (zoneId containerId : String) (start : Session Store)
    (desired : DesiredRule) (result : Except Error α) (moves : List (Store × Store))
    (now : Session Store) : Prop :=
  match result with
  | .ok _ => desired.Done zoneId start now
  | .error _ => desired.Pending zoneId containerId start moves now

private theorem create_guarded (pending : desired.Pending zoneId containerId start moves session)
    {body : DesiredBody} (wanted : desired.body = some body) (maps : desired.HasMaps)
    (absent : desired.held zoneId start.platform = []) (position : Option Position) :
    (Procedure.request (.createRule zoneId containerId
      (body.request desired.tag position))).Guarded runId (desired.Takes zoneId)
      (desired.Gives zoneId) (Settles zoneId containerId start desired) moves session := by
  refine .request fun middle now takes => ?_
  have pending' := pending.taken takes
  obtain ⟨container, serves, rfl, tagged⟩ := pending'.filter
  rw [absent] at tagged
  cases placed : Store.index? container.rules position with
  | ok index =>
    refine .createRule pending'.wellFormed serves desired.targets_self placed
      (fun fault _ => ⟨gives_logged middle _, pending'.logged _⟩)
      fun after front back shape advance serves' => ?_
    rw [shape, List.filter_append, List.append_eq_nil_iff] at tagged
    have held : desired.held zoneId after.platform = [_] :=
      (Store.tagged_of_serving serves' _).trans
        (filter_middle tagged.1 (beq_self_eq_true _) tagged.2)
    exact pending'.settled advance (some _) held
      ⟨body, wanted, matches_ruleOf (maps body wanted) _ _ _⟩
  | error anchor =>
    refine .request (fun fault _ => ⟨gives_logged middle _, pending'.logged _⟩) fun _ => ?_
    have unplaced : Store.index? container.rules (body.request desired.tag position).position =
        .error anchor := placed
    obtain ⟨fault, refused⟩ := Store.perform_createRule_unplaced
      (Store.container?_of_serving (wellFormed_logged pending'.wellFormed _) serves) unplaced
    rw [refused]
    refine ⟨⟨⟨_, .single (.keep rfl (Nat.le_succ _)), rfl, rfl, rfl, rfl⟩, id⟩, ?_⟩
    exact pending'.unmoved rfl (Nat.le_succ _)

private theorem patch_guarded (pending : desired.Pending zoneId containerId start moves session)
    {body : DesiredBody} (wanted : desired.body = some body) (maps : desired.HasMaps)
    {old : RemoteRule} (only : desired.held zoneId start.platform = [old]) :
    (Procedure.request (.patchRule zoneId containerId old.id
      (body.request desired.tag none))).Guarded runId (desired.Takes zoneId)
      (desired.Gives zoneId) (Settles zoneId containerId start desired) moves session := by
  refine .request fun middle now takes => ?_
  have pending' := pending.taken takes
  obtain ⟨container, front, back, serves, rfl, shape, target, inFront, inBack⟩ :=
    pending'.shape only
  refine .patchRule pending'.wellFormed serves shape target
    desired.targets_self (fun fault _ => ⟨gives_logged middle _, pending'.logged _⟩)
    fun after advance serves' => ?_
  have held : desired.held zoneId after.platform = [_] :=
    (Store.tagged_of_serving serves' _).trans (filter_middle inFront (beq_self_eq_true _) inBack)
  exact pending'.settled advance (some _) held
    ⟨body, wanted, matches_patched (maps body wanted) _ _ _⟩

private theorem delete_guarded (pending : desired.Pending zoneId containerId start moves session)
    (unwanted : desired.body = none) {old : RemoteRule}
    (only : desired.held zoneId start.platform = [old]) :
    (Procedure.request (.deleteRule zoneId containerId old.id)).Guarded runId
      (desired.Takes zoneId) (desired.Gives zoneId) (Settles zoneId containerId start desired)
      moves session := by
  refine .request fun middle now takes => ?_
  have pending' := pending.taken takes
  obtain ⟨container, front, back, serves, rfl, shape, target, inFront, inBack⟩ :=
    pending'.shape only
  refine .deleteRule pending'.wellFormed serves shape target
    (fun fault _ => ⟨gives_logged middle _, pending'.logged _⟩) fun after advance serves' => ?_
  have held : desired.held zoneId after.platform = [] := by
    unfold DesiredRule.held
    rw [Store.tagged_of_serving serves', List.filter_append, inFront, inBack]
    rfl
  exact pending'.settled advance none held unwanted

private theorem settle_guarded (pending : desired.Pending zoneId containerId start moves session)
    (maps : desired.HasMaps) {snapshot : Snapshot}
    (seen : snapshot.rules.filter (·.tag == desired.tag) = desired.held zoneId start.platform) :
    (desired.settle zoneId containerId snapshot).Guarded runId (desired.Takes zoneId)
      (desired.Gives zoneId) (Settles zoneId containerId start desired) moves session := by
  have done : ∀ rule?, desired.held zoneId start.platform = rule?.toList →
      desired.Accepts rule? → desired.Done zoneId start session := fun rule? was accepted =>
    ⟨pending.wellFormed, pending.available, rule?, pending.kept.trans was, accepted⟩
  unfold settle Snapshot.tagged?
  rcases found : desired.held zoneId start.platform with _ | ⟨old, _ | ⟨second, more⟩⟩
  · rw [seen, found]
    refine .bind ?_
    cases wanted : desired.body with
    | none => exact done none found wanted
    | some body =>
      refine .bind ((create_guarded pending wanted maps found _).imp
        fun result moves now ends => ?_)
      cases result <;> exact ends
  · rw [seen, found]
    refine .bind ?_
    cases wanted : desired.body with
    | none =>
      refine .bind ((delete_guarded pending wanted found).imp fun result moves now ends => ?_)
      cases result <;> exact ends
    | some body =>
      show Procedure.Guarded _ _ _ _ (ite (body.matches old = true) _ _) _ _
      by_cases matched : body.matches old = true
      · rw [if_pos matched]
        exact done (some old) found ⟨body, wanted, matched⟩
      · rw [if_neg matched]
        refine .bind ((patch_guarded pending wanted maps found).imp fun result moves now ends => ?_)
        cases result <;> exact ends
  · rw [seen, found]
    exact .bind pending

private theorem record_guarded (done : desired.Done zoneId start session) (decision : Decision)
    (outcome : Outcome) :
    (do Procedure.record decision; return outcome : Procedure Outcome).Guarded runId
      (desired.Takes zoneId) (desired.Gives zoneId) (Ends zoneId start desired) moves session := by
  refine .bind (.record fun middle now takes => ?_)
  have wellFormed := takes.wellFormed done.wellFormed
  have settled := takes.settled done.wellFormed done.settled
  have available := takes.available.trans done.available
  refine .record (fun logbook was still => ?_) fun fault lost => ?_
  · exact ⟨⟨⟨[], .recorded middle was still⟩, id⟩, wellFormed, settled⟩
  · refine ⟨⟨⟨[], .refl middle⟩, id⟩, wellFormed, fun inReach => ?_⟩
    nomatch lost.symm.trans (available.trans inReach)

private theorem reconcile_guarded (maps : desired.HasMaps)
    (pending : desired.Pending zoneId containerId start moves session) :
    (desired.reconcile zoneId).Guarded runId (desired.Takes zoneId) (desired.Gives zoneId)
      (Ends zoneId start desired) moves session := by
  unfold reconcile
  refine .bind ((locate_guarded pending).imp fun result moves now ⟨pending, located⟩ => ?_)
  cases result with
  | error fault => exact pending.ends fault
  | ok containerId? =>
    obtain rfl := located containerId? rfl
    refine .bind (.request fun middle now takes => ?_)
    have pending' := pending.taken takes
    obtain ⟨container, serves, rfl, tagged⟩ := pending'.filter
    refine .fetchContainer pending'.wellFormed serves
      (fun fault _ => ⟨gives_logged middle _, (pending'.logged _).ends fault⟩)
      ⟨gives_logged middle _, ?_⟩
    refine .bind ((settle_guarded (pending'.logged _) maps tagged).imp
      fun result moves now settles => ?_)
    cases result with
    | error fault => exact settles.ends fault
    | ok outcome => exact record_guarded settles _ outcome

theorem Gives.once {tag : String} (gives : desired.Gives zoneId session after)
    (wellFormed : session.platform.WellFormed)
    (served : (session.platform.serving? zoneId desired.category.phase).isSome = true)
    (once : session.platform.Once tag) : after.platform.Once tag := by
  obtain ⟨⟨calls, advance⟩, single⟩ := gives
  have framed := advance.edits.framed wellFormed
  have persist := framed.forall₂ fun phase tag ⟨same, _⟩ => same ▸ served
  intro container' member'
  obtain ⟨front, back, shape⟩ := List.append_of_mem member'
  rw [shape] at persist
  obtain ⟨front', container, back', shape', -, persists, -⟩ := Store.forall₂_split persist
  have member : container ∈ session.platform.containers := by simp [shape']
  by_cases target : session.platform.touched zoneId desired.targets container tag
  · obtain ⟨phase, ⟨rfl, rfl⟩, serves⟩ := target
    obtain ⟨other, serves', persists'⟩ := framed.serving?_some serves
    -- The container that serves the phase is told apart by its identifier.
    have same : other.key = container'.key := by
      rw [Container.key, Container.key, persists.zone, persists.summary, persists'.zone,
        persists'.summary]
    obtain rfl := List.inj_on_of_nodup_map (advance.edits.wellFormed wellFormed).keys
      (Store.serving?_eq_some serves').1 member' same
    have before := once container member
    rw [← Store.tagged_of_serving serves] at before
    have after := single before
    rwa [held, Store.tagged_of_serving serves'] at after
  · have kept := persists.others (·.tag == tag) fun rule touched =>
      beq_false_of_ne fun same : rule.tag = tag => target (same ▸ touched)
    rw [kept]
    exact once container member

private theorem gives_chain {entries : List DesiredRule} (wellFormed : start.platform.WellFormed)
    (served : ∀ desired ∈ entries,
      (start.platform.serving? zoneId desired.category.phase).isSome = true)
    (chain : Relation.ReflTransGen
      (fun before after => ∃ desired ∈ entries, desired.Gives zoneId before after) start after) :
    Store.Edits zoneId (allTargets entries) start.platform after.platform ∧
      ∀ tag, start.platform.Once tag → after.platform.Once tag := by
  induction chain with
  | refl => exact ⟨.refl, fun _ => id⟩
  | tail _ gives ih =>
    obtain ⟨desired, member, gives⟩ := gives
    obtain ⟨edits, once⟩ := ih
    have wellFormed' := edits.wellFormed wellFormed
    obtain ⟨container, serves⟩ := Option.isSome_iff_exists.mp (served desired member)
    obtain ⟨container', serves', -⟩ := (edits.framed wellFormed).serving?_some serves
    refine ⟨edits.trans ?_, fun tag single => gives.once wellFormed' ?_ (once tag single)⟩
    · obtain ⟨⟨calls, advance⟩, -⟩ := gives
      exact advance.edits.mono fun phase tag target => ⟨desired, member, target⟩
    · rw [serves']
      rfl

/-- Runs of some entries, which have not begun. -/
def alongside (zoneId : String) (session : Session Store) (entries : List (RunId × DesiredRule)) :
    Concurrent DesiredRule Outcome where
  session := session
  runs := entries.map fun (runId, desired) => ⟨runId, desired, desired.reconcile zoneId, []⟩

private theorem sharing_fair {entries : List DesiredRule} (distinct : (entries.map (·.tag)).Nodup) :
    (sharing zoneId start).Fair entries where
  refl desired session := ⟨[], .refl session⟩
  trans := by
    rintro desired before middle after ⟨calls, advance⟩ ⟨calls', advance'⟩
    exact ⟨_, advance.trans advance'⟩
  idle desired session := ⟨⟨[], .refl session⟩, id⟩
  stable := by
    rintro desired result moves before after ⟨wellFormed, ends⟩ takes
    refine ⟨takes.wellFormed wellFormed, ?_⟩
    cases result with
    | ok outcome => exact takes.settled wellFormed ends
    | error fault =>
      intro available
      exact ⟨(takes.held wellFormed).trans (ends available).1, (ends available).2⟩
  apart := by
    rintro first second one other here there different before after ⟨⟨calls, advance⟩, -⟩
    refine ⟨calls, advance.mono fun phase tag target same => different ?_⟩
    have tags : one.tag = other.tag := target.2.symm.trans same
    have bound : first < (entries.map (·.tag)).length := by
      rw [List.length_map]
      exact (List.getElem?_eq_some_iff.mp here).1
    refine (List.getElem?_inj bound distinct).mp ?_
    rw [List.getElem?_map, List.getElem?_map, here, there, Option.map_some, Option.map_some, tags]

/-- Runs of entries of distinct tags, whatever the order of their calls: a run that has succeeded
has its rule as desired, a run that has failed has changed nothing, no tag comes to be carried
twice, and every rule of another tag stays as it is and where it stands among the others. -/
theorem reconcile_alongside {start : Session Store} {entries : List (RunId × DesiredRule)}
    (wellFormed : start.platform.WellFormed)
    (served : ∀ entry ∈ entries,
      (start.platform.serving? zoneId entry.2.category.phase).isSome = true)
    (distinct : (entries.map (·.2.tag)).Nodup) (maps : ∀ entry ∈ entries, entry.2.HasMaps)
    (schedule : List (Nat × Timestamp)) {now : Concurrent DesiredRule Outcome}
    (reached : (alongside zoneId start entries).follow schedule = now) :
    now.tasks = entries.map (·.2) ∧
      (∀ run ∈ now.runs, ∀ result, run.rest = .done result →
        match result with
        | .ok _ => run.task.Settled zoneId now.session.platform
        | .error _ => start.logbook.available = true →
          run.task.held zoneId now.session.platform = run.task.held zoneId start.platform ∧
            ∀ move ∈ run.moves, move.2.containers = move.1.containers) ∧
      (∀ tag, start.platform.Once tag → now.session.platform.Once tag) ∧
      List.Forall₂ (Container.Persists fun tag => ∃ entry ∈ entries, tag = entry.2.tag)
        start.platform.containers now.session.platform.containers := by
  have tasks : (alongside zoneId start entries).tasks = entries.map (·.2) := by
    simp [alongside, Concurrent.tasks]
  have fair : (sharing zoneId start).Fair (alongside zoneId start entries).tasks := by
    rw [tasks]
    refine sharing_fair ?_
    rwa [List.map_map]
  have served' : ∀ desired ∈ entries.map (·.2),
      (start.platform.serving? zoneId desired.category.phase).isSome = true :=
    List.forall_mem_map.mpr served
  have guarded : (alongside zoneId start entries).Guarded (sharing zoneId start) := by
    intro index run here
    obtain ⟨entry, member, rfl⟩ := List.mem_map.mp (List.mem_of_getElem? here)
    obtain ⟨container, serves⟩ := Option.isSome_iff_exists.mp (served entry member)
    exact reconcile_guarded (maps entry member)
      ⟨wellFormed, ⟨container, serves, rfl⟩, rfl, rfl, List.forall_mem_nil _⟩
  obtain ⟨goes, same, given⟩ := guarded.follow fair schedule
  rw [tasks] at same given
  rw [reached] at goes same given
  obtain ⟨edits, once⟩ := gives_chain wellFormed served' given
  refine ⟨same, fun run member result ended => ?_, once, ?_⟩
  · obtain ⟨index, here⟩ := List.getElem?_of_mem member
    have ends := goes index run here
    unfold Run.Guarded at ends
    rw [ended] at ends
    exact ends.ends
  · refine ((edits.framed wellFormed).forall₂ ?_).imp fun container container' persists =>
      persists.mono ?_
    · rintro phase tag ⟨desired, member, rfl, -⟩
      exact served' desired member
    · rintro tag ⟨phase, ⟨desired, member, -, same⟩, -⟩
      obtain ⟨entry, listed, rfl⟩ := List.mem_map.mp member
      exact ⟨entry, listed, same⟩

/-- A blocked address is to be removed while an allowed one is to be put in front of it. -/
def sampleRuns : List (RunId × DesiredRule) :=
  [(default, ⟨.whitelist, "a.io", some ⟨.skip, "", true, none, none⟩⟩),
    (default, absent .blacklist "b.io")]

def sampleStart : Session Store where
  platform := platformOf ⟨"black_ip_b.io", .block, "", true, none, none, none⟩
  logbook := .empty "journal"

/-- The first run looks at the container, then the second one deletes the rule that it has seen. -/
def sampleSchedule : List (Nat × Timestamp) :=
  [0, 0, 1, 1, 1, 1, 0].map (·, default)

/-- A run that has ended, and whether it has succeeded. -/
def succeeded? (run : Run DesiredRule Outcome) : Option Bool :=
  match run.rest with
  | .done result => some result.isOk
  | _ => none

theorem reconcile_alongside_sample :
    (sampleStart.platform.WellFormed ∧
      (∀ entry ∈ sampleRuns, (sampleStart.platform.serving? "zone"
        entry.2.category.phase).isSome = true) ∧
      (sampleRuns.map (·.2.tag)).Nodup ∧ ∀ entry ∈ sampleRuns, entry.2.HasMaps) ∧
    ∃ now, (alongside "zone" sampleStart sampleRuns).follow sampleSchedule = now ∧
      now.runs.map succeeded? = [some false, some true] ∧
      (∀ run ∈ now.runs, ∀ result, run.rest = .done result →
        match result with
        | .ok _ => run.task.Settled "zone" now.session.platform
        | .error _ => sampleStart.logbook.available = true →
          run.task.held "zone" now.session.platform =
              run.task.held "zone" sampleStart.platform ∧
            ∀ move ∈ run.moves, move.2.containers = move.1.containers) ∧
      ∀ tag, sampleStart.platform.Once tag → now.session.platform.Once tag := by
  have served : ∀ entry ∈ sampleRuns, (sampleStart.platform.serving? "zone"
      entry.2.category.phase).isSome = true := by
    decide +kernel
  have distinct : (sampleRuns.map (·.2.tag)).Nodup := by
    decide
  have maps : ∀ entry ∈ sampleRuns, entry.2.HasMaps := by
    refine List.forall_mem_cons.mpr ⟨fun body wanted value given => ?_,
      List.forall_mem_singleton.mpr fun _ => nofun⟩
    cases wanted
    nomatch given
  obtain ⟨-, ended, once, -⟩ := reconcile_alongside (wellFormed_platformOf _) served distinct maps
    sampleSchedule rfl
  exact ⟨⟨wellFormed_platformOf _, served, distinct, maps⟩, _, rfl, by decide +kernel, ended, once⟩

end DesiredRule

end EdgePolicy
