import EdgePolicy.Proofs.Reconcile.Convergence
import EdgePolicy.Proofs.Reconcile.Revision

/-
Runs that are interrupted and tried again.

`CarriedAll` says what a platform holds once its entries are carried out in order; there is one such
state.  Wherever a run over the entries stops, carrying all of them out from there leads to the same
state as from its start (`reconcileAll_resumes`): the entries before the one that stopped it are
settled and do nothing any more, and that entry itself goes on from where it was.  So any number of
attempts may precede the run that goes through.
-/

set_option autoImplicit false
set_option relaxedAutoImplicit false

namespace EdgePolicy

open Session (Leads onStore)

/-- Attempts at the same entries, and between them whatever is not about containers is set: the
operations that fail, whether the race for a container is lost, the logbook. -/
inductive Session.Attempts (zoneId : String) (entries : List DesiredRule) :
    Session Store → Session Store → Prop
  | done (session : Session Store) : Attempts zoneId entries session session
  | attempted {session after : Session Store} (runId : RunId) (now : Timestamp)
      (more : Attempts zoneId entries
        (onStore runId now (DesiredRule.reconcileAll zoneId entries) session).2 after) :
      Attempts zoneId entries session after
  | set {session after : Session Store} (changed : Session Store)
      (containers : changed.platform.containers = session.platform.containers)
      (issued : changed.platform.issued = session.platform.issued)
      (more : Attempts zoneId entries changed after) : Attempts zoneId entries session after

namespace DesiredRule

/-- Entries carried out in order, with what the platform holds in the end. -/
inductive CarriedAll (zoneId : String) :
    List DesiredRule → Store → List Container × Nat → Prop
  | done (store : Store) : CarriedAll zoneId [] store store.holding
  | entry {desired : DesiredRule} {rest : List DesiredRule} {outcome : Outcome} {before : Store}
      {holding : List Container × Nat} (middle : Store)
      (carried : desired.Carried zoneId before outcome middle.holding)
      (others : CarriedAll zoneId rest middle holding) :
      CarriedAll zoneId (desired :: rest) before holding

variable {desired : DesiredRule} {zoneId : String} {before after : Store} {outcome : Outcome}
  {entries : List DesiredRule} {holding : List Container × Nat} {session last : Session Store}
  {runId : RunId} {now : Timestamp}

theorem CarriedAll.congr (all : CarriedAll zoneId entries before holding)
    (same : before.holding = after.holding) : CarriedAll zoneId entries after holding := by
  cases all with
  | done store =>
    rw [same]
    exact .done after
  | entry middle carried others => exact .entry middle (carried.congr same) others

theorem CarriedAll.tail (all : CarriedAll zoneId (desired :: entries) before holding)
    (carried : desired.Carried zoneId before outcome after.holding) :
    CarriedAll zoneId entries after holding := by
  obtain _ | ⟨middle, expected, others⟩ := all
  obtain ⟨-, same⟩ := expected.unique carried
  exact others.congr same.symm

theorem Carried.single (carried : desired.Carried zoneId before outcome holding)
    (wellFormed : before.WellFormed) : (desired.held zoneId before).length ≤ 1 := by
  unfold held
  cases serves : before.serving? zoneId desired.category.phase with
  | none =>
    rw [Store.tagged_of_none serves]
    exact Nat.zero_le _
  | some container =>
    rw [Store.tagged_of_serving serves]
    cases carried with
    | idle unwanted absent => exact nomatch absent.symm.trans serves
    | revised serving fetched serves' found revision =>
      rw [provided_of_serving serves] at serves' found
      obtain rfl := Option.some.inj (serves.symm.trans serves')
      have fetched_eq := Store.container?_of_serving wellFormed serves
      obtain rfl := Option.some.inj (fetched_eq.symm.trans found)
      cases revision with
      | kept rule? was accepted =>
        rw [was]
        exact Option.length_toList_le
      | created body index wanted was placed => simp [was]
      | patched body old rule wanted was differs here => simp [was]
      | deleted old unwanted was => simp [was]

theorem Settled.carried (settled : desired.Settled zoneId before)
    (wellFormed : before.WellFormed) :
    ∃ outcome, desired.Carried zoneId before outcome before.holding := by
  obtain ⟨rule?, was, accepted⟩ := settled
  unfold held at was
  cases serves : before.serving? zoneId desired.category.phase with
  | none =>
    rw [Store.tagged_of_none serves] at was
    obtain rfl : rule? = none := Option.toList_eq_nil_iff.mp was.symm
    exact ⟨_, .idle accepted serves⟩
  | some container =>
    rw [Store.tagged_of_serving serves] at was
    have found := Store.container?_of_serving wellFormed serves
    have kept := Store.withRules_self found
    have provided : desired.provided zoneId before = before := provided_of_serving serves
    have carried : desired.Carried zoneId before _
        (((desired.provided zoneId before).withRules zoneId container.summary.id
          container.rules).containers, (desired.provided zoneId before).issued) :=
      .revised container container (provided.symm ▸ serves) (provided.symm ▸ found)
        (.kept rule? was accepted)
    rw [provided, kept] at carried
    exact ⟨_, carried⟩

theorem CarriedAll.cons (settled : desired.Settled zoneId before) (wellFormed : before.WellFormed)
    (all : CarriedAll zoneId entries before holding) :
    CarriedAll zoneId (desired :: entries) before holding := by
  obtain ⟨outcome, carried⟩ := settled.carried wellFormed
  exact .entry before carried all

theorem Carried.settled (carried : desired.Carried zoneId before outcome holding)
    (wellFormed : before.WellFormed) (maps : desired.HasMaps)
    (holds : after.holding = holding) : desired.Settled zoneId after := by
  have single := carried.single wellFormed
  -- A run in which nothing fails carries the entry out in the same way, and settles it.
  rcases reached : onStore default default (desired.reconcile zoneId)
    ⟨{ before with failing := [] }, .empty ""⟩ with ⟨result, late⟩
  have concludes := (reconcile_leads (wellFormed.of_containers_eq rfl (Nat.le_refl _))).elim reached
  have carries := reconcile_carries.elim reached
  obtain ⟨calls, -, ends⟩ := concludes
  cases result with
  | error fault =>
    rcases ends with failing | lost | many
    · exact absurd rfl failing
    · exact nomatch lost
    · have same : desired.held zoneId { before with failing := [] } =
          desired.held zoneId before := held_of_containers rfl
      rw [same] at many
      omega
  | ok outcome' =>
    have unchanged : before.holding = ({ before with failing := [] } : Store).holding := rfl
    have expected := carried.congr unchanged
    have happened : desired.Carried zoneId { before with failing := [] } outcome'
      late.platform.holding := carries
    obtain ⟨-, same⟩ := expected.unique happened
    obtain ⟨rule?, was, accepted⟩ := ends.effect.settled maps
    have containers : after.containers = late.platform.containers :=
      Store.containers_of_holding (holds.trans same.symm)
    exact ⟨rule?, (held_of_containers containers).trans was, accepted⟩

private theorem held_of_holding (same : before.holding = after.holding) :
    desired.held zoneId before = desired.held zoneId after :=
  held_of_containers (Store.containers_of_holding same)

private theorem held_provided (desired : DesiredRule) (zoneId : String) (store : Store) :
    desired.held zoneId (desired.provided zoneId store) = desired.held zoneId store := by
  cases wanted : desired.body with
  | none => rw [provided_of_unwanted wanted]
  | some body =>
    cases serves : store.serving? zoneId desired.category.phase with
    | some serving => rw [provided_of_serving serves]
    | none =>
      rw [provided_of_absent wanted serves, held, held,
        Store.tagged_of_serving (Store.serving?_provision store serves),
        Store.tagged_of_none serves]
      rfl

theorem reconcile_settles (wellFormed : session.platform.WellFormed) (maps : desired.HasMaps) :
    Leads runId now (desired.reconcile zoneId) session fun result after =>
      match result with
      | .ok _ => desired.Settled zoneId after.platform
      | .error _ => desired.Settled zoneId after.platform ∨
          desired.held zoneId after.platform = desired.held zoneId session.platform := by
  refine reconcile_carries.imp fun result after carries => ?_
  cases result with
  | ok outcome => exact Carried.settled carries wellFormed maps rfl
  | error fault =>
    rcases carries with same | same | ⟨outcome, carried⟩
    · exact .inr (held_of_holding same)
    · exact .inr ((held_of_holding same).trans (held_provided desired zoneId _))
    · exact .inl (carried.settled wellFormed maps rfl)

private theorem reconcileAll_carries :
    Leads runId now (reconcileAll zoneId entries) session fun result after =>
      result.isOk → CarriedAll zoneId entries session.platform after.platform.holding := by
  induction entries generalizing session with
  | nil => exact .pure fun _ => .done _
  | cons first rest ih =>
    refine .bind (reconcile_carries.imp fun result middle carries => ?_)
    cases result with
    | error fault => exact fun none => nomatch none
    | ok outcome =>
      refine .bind (ih.imp fun result after ends => ?_)
      cases result with
      | error fault => exact fun none => nomatch none
      | ok outcomes => exact .pure fun _ => .entry _ carries (ends rfl)

private theorem reconcileAll_of_carriedAll (wellFormed : session.platform.WellFormed)
    (working : session.platform.failing = []) (available : session.logbook.available = true)
    (all : CarriedAll zoneId entries session.platform holding) (runId : RunId) (now : Timestamp) :
    ∃ outcomes after, onStore runId now (reconcileAll zoneId entries) session =
      (.ok outcomes, after) ∧ after.platform.holding = holding := by
  induction entries generalizing session with
  | nil =>
    cases all
    exact ⟨[], session, rfl, rfl⟩
  | cons first rest ih =>
    rcases reached : onStore runId now (first.reconcile zoneId) session with ⟨result, middle⟩
    obtain ⟨calls, advance, ends⟩ := (reconcile_leads wellFormed).elim reached
    have carries := reconcile_carries.elim reached
    cases result with
    | error fault =>
      rcases ends with failing | lost | many
      · exact absurd working failing
      · exact nomatch available.symm.trans lost
      · obtain _ | ⟨next, carried, others⟩ := all
        have single := carried.single wellFormed
        omega
    | ok outcome =>
      obtain ⟨outcomes, after, reached', holds⟩ := ih (advance.edits.wellFormed wellFormed)
        (advance.failing.trans working) (advance.available.trans available) (all.tail carries)
      refine ⟨outcome :: outcomes, after, ?_, holds⟩
      unfold reconcileAll
      rw [Session.onStore_bind, reached]
      show onStore runId now (reconcileAll zoneId rest >>= _) middle = _
      rw [Session.onStore_bind, reached']
      rfl

/-- Wherever a run stops, its entries are carried out from there to the state to which they are
carried out from its start. -/
theorem reconcileAll_resumes (wellFormed : session.platform.WellFormed)
    (distinct : (entries.map (·.tag)).Nodup) (maps : ∀ desired ∈ entries, desired.HasMaps) :
    Leads runId now (reconcileAll zoneId entries) session fun _ after =>
      ∀ holding, CarriedAll zoneId entries session.platform holding →
        CarriedAll zoneId entries after.platform holding := by
  induction entries generalizing session with
  | nil => exact .pure fun _ all => all
  | cons first rest ih =>
    simp only [List.map_cons, List.nodup_cons, List.forall_mem_cons] at distinct maps
    obtain ⟨absent, distinct⟩ := distinct
    obtain ⟨firstMaps, maps⟩ := maps
    refine .bind (((reconcile_leads wellFormed).and reconcile_carries).imp
      fun result middle ⟨⟨calls, advance, ends⟩, carries⟩ => ?_)
    have wellFormed' := advance.edits.wellFormed wellFormed
    cases result with
    -- The first entry stopped the run.
    | error fault =>
      intro holding all
      rcases carries with same | same | ⟨outcome, carries⟩
      · exact all.congr same.symm
      · obtain _ | ⟨next, carried, others⟩ := all
        exact .entry next (carried.provided.congr same.symm) others
      · have settled := carries.settled wellFormed firstMaps rfl
        exact .cons settled wellFormed' (all.tail carries)
    | ok outcome =>
      have settled := ends.effect.settled firstMaps
      refine .bind (((ih wellFormed' distinct maps).and
        (reconcileAll_leads runId now zoneId rest wellFormed')).imp
          fun result after ⟨resumes, calls', advance', _⟩ => ?_)
      -- The later entries leave the first one settled.
      have still : first.Settled zoneId after.platform := by
        refine settled.of_framed (advance'.edits.framed wellFormed') (.inr ?_)
        rintro ⟨other, member, -, same⟩
        exact absent (List.mem_map.mpr ⟨other, member, same.symm⟩)
      have resumed : ∀ holding, CarriedAll zoneId (first :: rest) session.platform holding →
          CarriedAll zoneId (first :: rest) after.platform holding := by
        intro holding all
        have others := resumes holding (all.tail carries)
        exact .cons still (advance'.edits.wellFormed wellFormed') others
      cases result with
      | error fault => exact resumed
      | ok outcomes => exact .pure resumed

theorem CarriedAll.attempts (attempts : Session.Attempts zoneId entries session last)
    (wellFormed : session.platform.WellFormed) (distinct : (entries.map (·.tag)).Nodup)
    (maps : ∀ desired ∈ entries, desired.HasMaps)
    (all : CarriedAll zoneId entries session.platform holding) :
    last.platform.WellFormed ∧ CarriedAll zoneId entries last.platform holding := by
  induction attempts with
  | done session => exact ⟨wellFormed, all⟩
  | @attempted session after runId now more ih =>
    obtain ⟨calls, advance, -⟩ := reconcileAll_leads runId now zoneId entries wellFormed
    have resumes : Leads runId now (reconcileAll zoneId entries) session fun _ after =>
        ∀ holding, CarriedAll zoneId entries session.platform holding →
          CarriedAll zoneId entries after.platform holding :=
      reconcileAll_resumes wellFormed distinct maps
    exact ih (advance.edits.wellFormed wellFormed) (resumes holding all)
  | set changed containers issued more ih =>
    refine ih (wellFormed.of_containers_eq containers (Nat.le_of_eq issued.symm)) (all.congr ?_)
    exact Store.holding_eq containers.symm issued.symm

/-- Entries that are tried again until a run goes through end in the state in which one run without
failures ends. -/
theorem reconcileAll_retried (wellFormed : session.platform.WellFormed)
    (working : session.platform.failing = []) (available : session.logbook.available = true)
    (distinct : (entries.map (·.tag)).Nodup)
    (single : ∀ desired ∈ entries, (desired.held zoneId session.platform).length ≤ 1)
    (maps : ∀ desired ∈ entries, desired.HasMaps)
    (attempts : Session.Attempts zoneId entries session last)
    (working' : last.platform.failing = []) (available' : last.logbook.available = true)
    (runId runId' : RunId) (now now' : Timestamp) :
    ∃ outcomes after outcomes' clean,
      onStore runId now (reconcileAll zoneId entries) last = (.ok outcomes, after) ∧
        onStore runId' now' (reconcileAll zoneId entries) session = (.ok outcomes', clean) ∧
        after.platform.containers = clean.platform.containers := by
  obtain ⟨outcomes', clean, -, cleanly, -, -⟩ :=
    reconcileAll_stages wellFormed working available single runId' now'
  have all := reconcileAll_carries.elim cleanly rfl
  obtain ⟨wellFormed', all'⟩ := all.attempts attempts wellFormed distinct maps
  obtain ⟨outcomes, after, reached, holds⟩ :=
    reconcileAll_of_carriedAll wellFormed' working' available' all' runId now
  exact ⟨outcomes, after, outcomes', clean, reached, cleanly, Store.containers_of_holding holds⟩

/-- An empty platform on which the race for the first container is lost and no rule can be
created. -/
def hinderedSession : Session Store where
  platform := { Store.empty with failing := [.createRule], losesRace := true }
  logbook := .empty "journal"

/-- The entries are tried on that platform, and then rules can be created again. -/
def recoveredSession : Session Store :=
  let tried := (onStore default default (reconcileAll "zone" sampleEntries) hinderedSession).2
  { tried with platform := { tried.platform with failing := [] } }

theorem reconcileAll_retried_sample :
    (Store.empty.WellFormed ∧ (sampleEntries.map (·.tag)).Nodup ∧
      (∀ desired ∈ sampleEntries, (desired.held "zone" Store.empty).length ≤ 1) ∧
      (∀ desired ∈ sampleEntries, desired.HasMaps) ∧
      Session.Attempts "zone" sampleEntries ⟨.empty, .empty "journal"⟩ recoveredSession ∧
      recoveredSession.platform.failing = [] ∧ recoveredSession.logbook.available = true) ∧
    ∃ outcomes after outcomes' clean,
      onStore default default (reconcileAll "zone" sampleEntries) recoveredSession =
          (.ok outcomes, after) ∧
        onStore default default (reconcileAll "zone" sampleEntries) ⟨.empty, .empty "journal"⟩ =
          (.ok outcomes', clean) ∧
        after.platform.containers = clean.platform.containers := by
  have distinct : (sampleEntries.map (·.tag)).Nodup := by
    decide
  have single : ∀ desired ∈ sampleEntries, (desired.held "zone" Store.empty).length ≤ 1 :=
    fun _ _ => Nat.zero_le 1
  have attempts :
      Session.Attempts "zone" sampleEntries ⟨.empty, .empty "journal"⟩ recoveredSession :=
    .set hinderedSession rfl rfl <| .attempted default default <|
      .set recoveredSession rfl rfl <| .done recoveredSession
  have wellFormed : hinderedSession.platform.WellFormed :=
    Store.wellFormed_empty.of_containers_eq rfl (Nat.le_refl 0)
  obtain ⟨calls, advance, -⟩ := reconcileAll_leads default default "zone" sampleEntries wellFormed
  have available : recoveredSession.logbook.available = true := advance.available
  exact ⟨⟨Store.wellFormed_empty, distinct, single, hasMaps_sampleEntries, attempts, rfl,
      available⟩,
    reconcileAll_retried Store.wellFormed_empty rfl rfl distinct single hasMaps_sampleEntries
      attempts rfl available default default default default⟩

end DesiredRule

end EdgePolicy
