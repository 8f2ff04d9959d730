import EdgePolicy.Proofs.Reconcile.Account
import EdgePolicy.Proofs.Zone.Answers
import EdgePolicy.Proofs.Zone.Faults

/-
What a run over one entry leaves behind when it fails.

A run looks for the container of its entry, fetches it and settles the entry in it.  `Asks` says
which calls each of these stages may make, and so which calls a run has made when it ends.  A run that
fails has changed no rule and recorded nothing, and it fails for a tag that is carried twice exactly
when it has fetched a container in which the tag is (`reconcile_leaves`).
-/

set_option autoImplicit false
set_option relaxedAutoImplicit false

namespace EdgePolicy

open Session (Leads)

/-- Whatever is answered, a procedure makes only calls of a kind. -/
def Procedure.Asks {α : Type} (kind : Call → Prop) : Procedure α → Prop
  | .done _ => True
  | .ask call next => kind call ∧ ∀ answer, (next answer).Asks kind
  | .note _ next => next.Asks kind

namespace Procedure.Asks

variable {α β : Type} {kind : Call → Prop}

theorem bind {procedure : Procedure α} {f : α → Procedure β} (first : procedure.Asks kind)
    (second : ∀ value, (f value).Asks kind) : (procedure >>= f).Asks kind := by
  induction procedure with
  | done result =>
    cases result with
    | ok value => exact second value
    | error fault => exact trivial
  | ask call next ih => exact ⟨first.1, fun answer => ih answer (first.2 answer)⟩
  | note decision next ih => exact ih first

/-- A procedure may end in any fault, but makes only calls of the kind. -/
def trait (kind : Call → Prop) : Trait where
  Has := Asks kind
  admits := kind
  endsIn _ := True
  value _ := trivial
  fault _ _ := trivial
  request asked := ⟨asked, fun _ => trivial⟩
  attempt asked := ⟨asked, fun _ => trivial⟩
  bind := bind

end Procedure.Asks

/-- The calls of a run are behind those before it, and each is one that its procedure may make. -/
theorem Session.Leads.asked {α : Type} {runId : RunId} {now : Timestamp} {kind : Call → Prop}
    {procedure : Procedure α} (asks : procedure.Asks kind) (session : Session Store) :
    Leads runId now procedure session fun _ after =>
      ∃ calls, after.platform.calls = session.platform.calls ++ calls ∧ ∀ call ∈ calls, kind call := by
  induction procedure generalizing session with
  | done result => exact ⟨[], (List.append_nil _).symm, by simp⟩
  | ask call next ih =>
    obtain ⟨calls, logged, kinds⟩ := ih (Store.answer call session.platform).1 (asks.2 _)
      { session with platform := (Store.answer call session.platform).2 }
    refine ⟨call :: calls, ?_, List.forall_mem_cons.mpr ⟨asks.1, kinds⟩⟩
    refine logged.trans ?_
    rw [Store.answer_calls, List.append_assoc, List.singleton_append]
  | note decision next ih =>
    unfold Leads
    rw [onStore_note]
    rcases session.logbook.record runId now decision with ⟨recorded, logbook⟩
    cases recorded with
    | ok done => exact ih asks _
    | error fault => exact ⟨[], (List.append_nil _).symm, by simp⟩

def Error.reportsSeveral : Error → Bool
  | duplicateTag _ _ _ => true
  | _ => false

private theorem Error.OfPlatform.notSeveral {fault : Error} (ofPlatform : fault.OfPlatform) :
    fault.reportsSeveral = false := by
  cases ofPlatform <;> rfl

namespace DesiredRule

variable {desired : DesiredRule} {zoneId containerId : String} {runId : RunId} {now : Timestamp}
  {session : Session Store} {container : Container}

/-- Calls that look for a container or create it. -/
def Locates (call : Call) : Prop :=
  call.operation = .listContainers ∨ call.operation = .createContainer

def Changes (call : Call) : Prop := call.operation.changesRule = true

private theorem Locates.unchanging {call : Call} (locates : Locates call) :
    call.operation.changesRule = false := by
  rcases locates with listed | created
  · rw [listed]
    rfl
  · rw [created]
    rfl

private theorem fetch_apart (zoneId containerId : String) :
    ¬ Locates (.fetchContainer zoneId containerId) ∧
      ¬ Changes (.fetchContainer zoneId containerId) := by
  constructor
  · rintro (listed | created) <;> contradiction
  · exact Bool.false_ne_true

private theorem locate_asks (desired : DesiredRule) (zoneId : String) :
    (desired.locate zoneId).Asks Locates :=
  (Procedure.Asks.trait Locates).locate (.inl rfl) (.inr rfl) trivial

private theorem settle_asks (desired : DesiredRule) (zoneId containerId : String)
    (snapshot : Snapshot) :
    (desired.settle zoneId containerId snapshot).Asks Changes :=
  (Procedure.Asks.trait Changes).settle (fun _ changes => changes) fun _ _ => trivial

private theorem locate_serving {serving : Container}
    (serves : session.platform.serving? zoneId desired.category.phase = some serving) :
    Leads runId now (desired.locate zoneId) session fun _ after =>
      after = session.logged (.listContainers zoneId) := by
  unfold locate
  cases desired.body with
  | none => exact .bind (.findContainer (fun _ _ => rfl) fun _ => .pure rfl)
  | some body =>
    unfold Procedure.ensureContainer
    refine .bind (.bind (.findContainer (fun _ _ => rfl) fun _ => ?_))
    rw [serves]
    exact .pure (.pure rfl)

private theorem provided_containers (desired : DesiredRule) (zoneId : String) (store : Store) :
    (desired.provided zoneId store).containers = store.containers ∨
      desired.body.isSome = true ∧ store.serving? zoneId desired.category.phase = none ∧
        (desired.provided zoneId store).containers = store.containers ++
          [Store.provisioned zoneId s!"ruleset-{store.issued + 1}" desired.category.phase "zone"] := by
  cases wanted : desired.body with
  | none =>
    rw [provided_of_unwanted wanted]
    exact .inl rfl
  | some body =>
    cases serves : store.serving? zoneId desired.category.phase with
    | some serving =>
      rw [provided_of_serving serves]
      exact .inl rfl
    | none =>
      rw [provided_of_absent wanted serves]
      exact .inr ⟨rfl, rfl, rfl⟩

private theorem settle_several (container : Container) :
    Leads runId now (desired.settle zoneId containerId container.snapshot) session
      fun result after =>
        if 2 ≤ (container.rules.filter (·.tag == desired.tag)).length then
          result = .error (.duplicateTag container.summary.id desired.tag
              (container.rules.filter (·.tag == desired.tag)).length) ∧ after = session
        else ∀ fault, result = .error fault → fault.reportsSeveral = false := by
  split
  case isTrue several =>
    have refused : container.snapshot.tagged? desired.tag = .error _ :=
      Snapshot.tagged?_eq_error.mpr ⟨several, rfl⟩
    unfold settle
    rw [refused]
    exact .bind (.done ⟨rfl, rfl⟩)
  case isFalse few =>
    have fails : (desired.settle zoneId containerId container.snapshot).FailsWith
        (·.reportsSeveral = false) :=
      (Procedure.FailsWith.trait _).settle (fun _ _ => trivial) fun fault refused =>
        absurd (Snapshot.tagged?_eq_error.mp refused).1 few
    exact .fails fails (fun _ ofPlatform => ofPlatform.notSeveral) (fun _ => rfl) session

/-- How a run over an entry ends, and the calls it has made by then. -/
structure Leaves (desired : DesiredRule) (zoneId : String) (before after : Session Store)
    (calls : List Call) (result : Except Error Outcome) : Prop where
  logged : after.platform.calls = before.platform.calls ++ calls
  unrecorded : ∀ fault, result = .error fault → after.logbook = before.logbook
  untouched : ∀ fault, result = .error fault →
    after.platform.containers = before.platform.containers ∨
      desired.body.isSome = true ∧
        before.platform.serving? zoneId desired.category.phase = none ∧
        after.platform.containers = before.platform.containers ++ [Store.provisioned zoneId
          s!"ruleset-{before.platform.issued + 1}" desired.category.phase "zone"]
  several : ∀ containerId tag count, result = .error (.duplicateTag containerId tag count) ↔
    .fetchContainer zoneId containerId ∈ calls ∧ .fetchContainer ∉ before.platform.failing ∧
      tag = desired.tag ∧ 2 ≤ count ∧
      count = ((before.platform.rulesAt zoneId containerId).filter (·.tag == desired.tag)).length
  selected : ∀ containerId, .fetchContainer zoneId containerId ∈ calls →
    ((desired.provided zoneId before.platform).serving? zoneId desired.category.phase).map
      (·.summary.id) = some containerId
  quiet : ∀ containerId tag count, result = .error (.duplicateTag containerId tag count) →
    (∀ call ∈ calls, call.operation.changesRule = false) ∧
      ∀ serving, before.platform.serving? zoneId desired.category.phase = some serving →
        calls = [.listContainers zoneId, .fetchContainer zoneId serving.summary.id]

private theorem locate_ends :
    Leads runId now (desired.locate zoneId) session fun result after =>
      after.logbook = session.logbook ∧
      after.platform.failing = session.platform.failing ∧
      ∃ calls, after.platform.calls = session.platform.calls ++ calls ∧
        (∀ call ∈ calls, Locates call) ∧
        (∀ serving, session.platform.serving? zoneId desired.category.phase = some serving →
          calls = [.listContainers zoneId]) ∧
        match result with
        | .ok containerId => desired.Finds zoneId session.platform after.platform containerId
        | .error fault => after.platform.holding = session.platform.holding ∧
            fault.reportsSeveral = false := by
  have fails : (desired.locate zoneId).FailsWith (·.reportsSeveral = false) :=
    (Procedure.FailsWith.trait _).locate trivial trivial rfl
  have blameless : Leads runId now (desired.locate zoneId) session fun result _ =>
      ∀ fault, result = .error fault → fault.reportsSeveral = false :=
    .fails fails (fun _ ofPlatform => ofPlatform.notSeveral) (fun _ => rfl) session
  have first : Leads runId now (desired.locate zoneId) session fun _ after =>
      ∀ serving, session.platform.serving? zoneId desired.category.phase = some serving →
        after = session.logged (.listContainers zoneId) :=
    fun _ serves => locate_serving serves
  refine ((((locate_provides.silent (.locate desired zoneId)).and blameless).and first).and
    (.fixed _) |>.and (.asked (locate_asks desired zoneId) session)).imp fun result after ends => ?_
  obtain ⟨⟨⟨⟨⟨finds, logbook⟩, blameless⟩, first⟩, fixed⟩, calls, logged, kinds⟩ := ends
  refine ⟨logbook, fixed.2, calls, logged, kinds, fun serving serves => ?_, ?_⟩
  · have once : session.platform.calls ++ [.listContainers zoneId] =
        session.platform.calls ++ calls :=
      (congrArg (·.platform.calls) (first serving serves)).symm.trans logged
    exact (List.append_cancel_left once).symm
  · cases result with
    | ok containerId => exact finds
    | error fault => exact ⟨finds, blameless fault rfl⟩

private theorem fetch_ends
    (found : session.platform.container? zoneId containerId = some container) :
    Leads runId now (Procedure.request (.fetchContainer zoneId containerId)) session
      fun result after =>
        after = session.logged (.fetchContainer zoneId containerId) ∧
        match result with
        | .ok snapshot => .fetchContainer ∉ session.platform.failing ∧
            snapshot = container.snapshot
        | .error fault => .fetchContainer ∈ session.platform.failing ∧
            fault.reportsSeveral = false := by
  have blameless : Leads runId now (Procedure.request (.fetchContainer zoneId containerId)) session
      fun result _ => ∀ fault, result = .error fault → fault.reportsSeveral = false :=
    .fails (.request _) (fun _ ofPlatform => ofPlatform.notSeveral) (fun _ => rfl) session
  have reached : Leads runId now (Procedure.request (.fetchContainer zoneId containerId)) session
      fun result after => after = session.logged (.fetchContainer zoneId containerId) ∧
        match result with
        | .ok snapshot => .fetchContainer ∉ session.platform.failing ∧
            snapshot = container.snapshot
        | .error _ => .fetchContainer ∈ session.platform.failing :=
    .fetch found (fun _ failing => ⟨rfl, failing⟩) fun working _ => ⟨rfl, working, rfl⟩
  refine (reached.and blameless).imp fun result after ends => ?_
  obtain ⟨⟨same, reached⟩, blameless⟩ := ends
  cases result with
  | ok snapshot => exact ⟨same, reached⟩
  | error fault => exact ⟨same, reached, blameless fault rfl⟩

private theorem settle_ends
    (found : session.platform.container? zoneId containerId = some container) :
    Leads runId now (desired.settle zoneId containerId container.snapshot) session
      fun result after =>
        after.logbook = session.logbook ∧
        ∃ calls, after.platform.calls = session.platform.calls ++ calls ∧
          (∀ call ∈ calls, Changes call) ∧
          (∀ fault, result = .error fault → after.platform.holding = session.platform.holding) ∧
          if 2 ≤ (container.rules.filter (·.tag == desired.tag)).length then
            result = .error (.duplicateTag container.summary.id desired.tag
              (container.rules.filter (·.tag == desired.tag)).length) ∧ calls = []
          else ∀ fault, result = .error fault → fault.reportsSeveral = false := by
  refine ((((settle_revises found).silent (.settle _ _ _ _)).and (settle_several container)).and
    (.asked (settle_asks desired zoneId containerId container.snapshot) session)).imp
    fun result after ends => ?_
  obtain ⟨⟨⟨revises, logbook⟩, several⟩, calls, logged, kinds⟩ := ends
  refine ⟨logbook, calls, logged, kinds, fun fault failed => ?_, ?_⟩
  · subst failed
    exact revises
  · split
    case isTrue two =>
      rw [if_pos two] at several
      obtain ⟨failed, rfl⟩ := several
      exact ⟨failed, List.append_right_eq_self.mp logged.symm⟩
    case isFalse few =>
      rwa [if_neg few] at several

/-- What a run leads to from the container that it has located: the container is fetched, and rules
are changed only if at most one has the tag. -/
private theorem visit_ends (available : session.logbook.available = true)
    (found : session.platform.container? zoneId containerId = some container) :
    Leads runId now
      (do
        let snapshot ← Procedure.request (.fetchContainer zoneId containerId)
        let outcome ← desired.settle zoneId containerId snapshot
        Procedure.record (desired.decision zoneId (some containerId) outcome)
        return outcome)
      session fun result after =>
        ∃ changes, after.platform.calls =
            session.platform.calls ++ .fetchContainer zoneId containerId :: changes ∧
          (∀ call ∈ changes, Changes call) ∧
          (∀ fault, result = .error fault → after.logbook = session.logbook ∧
            after.platform.holding = session.platform.holding) ∧
          if .fetchContainer ∉ session.platform.failing ∧
              2 ≤ (container.rules.filter (·.tag == desired.tag)).length then
            result = .error (.duplicateTag container.summary.id desired.tag
              (container.rules.filter (·.tag == desired.tag)).length) ∧ changes = []
          else ∀ fault, result = .error fault → fault.reportsSeveral = false := by
  refine .bind ((fetch_ends found).imp fun result middle fetched => ?_)
  obtain ⟨rfl, fetched⟩ := fetched
  cases result with
  | error fault =>
    obtain ⟨broken, single⟩ := fetched
    refine ⟨[], rfl, List.forall_mem_nil Changes, fun _ _ => ⟨rfl, rfl⟩, ?_⟩
    rw [if_neg fun several => several.1 broken]
    rintro _ ⟨⟩
    exact single
  | ok snapshot =>
    obtain ⟨working, rfl⟩ := fetched
    have found' : (session.logged (.fetchContainer zoneId containerId)).platform.container?
        zoneId containerId = some container := found
    refine .bind ((settle_ends found').imp fun result late settles => ?_)
    obtain ⟨kept, changes, logged, changed, unsettled, several⟩ := settles
    have logged' : late.platform.calls =
        session.platform.calls ++ .fetchContainer zoneId containerId :: changes :=
      logged.trans (List.append_assoc _ [_] _)
    cases result with
    | error fault =>
      refine ⟨changes, logged', changed, fun _ _ => ⟨kept, unsettled fault rfl⟩, ?_⟩
      rwa [if_congr (and_iff_right working) rfl rfl]
    | ok outcome =>
      refine .bind (.noted (kept ▸ available) (.pure ⟨changes, logged', changed, ?_, ?_⟩))
      · exact fun _ failed => nomatch failed
      rw [if_neg]
      · exact fun _ failed => nomatch failed
      · intro decided
        rw [if_pos decided.2] at several
        exact nomatch several.1

private theorem Leaves.unfetched {before after : Session Store} {calls : List Call}
    {result : Except Error Outcome} (logged : after.platform.calls = before.platform.calls ++ calls)
    (located : ∀ call ∈ calls, Locates call)
    (unrecorded : ∀ fault, result = .error fault → after.logbook = before.logbook ∧
      after.platform.containers = before.platform.containers ∧ fault.reportsSeveral = false) :
    desired.Leaves zoneId before after calls result := by
  have unfetched : ∀ containerId, .fetchContainer zoneId containerId ∉ calls :=
    fun containerId fetched => (fetch_apart zoneId containerId).1 (located _ fetched)
  have single : ∀ containerId tag count, result ≠ .error (.duplicateTag containerId tag count) :=
    fun containerId tag count failed => nomatch (unrecorded _ failed).2.2
  exact {
    logged
    unrecorded := fun fault failed => (unrecorded fault failed).1
    untouched := fun fault failed => .inl (unrecorded fault failed).2.1
    several := fun containerId tag count =>
      ⟨fun failed => absurd failed (single _ _ _), fun fetched => absurd fetched.1 (unfetched _)⟩
    selected := fun containerId fetched => absurd fetched (unfetched containerId)
    quiet := fun containerId tag count failed => absurd failed (single _ _ _) }

private theorem fetched_iff {located changes : List Call} {fetched : String}
    (locates : ∀ call ∈ located, Locates call) (changed : ∀ call ∈ changes, Changes call) :
    .fetchContainer zoneId containerId ∈ located ++ .fetchContainer zoneId fetched :: changes ↔
      containerId = fetched := by
  have before : .fetchContainer zoneId containerId ∉ located := fun member =>
    (fetch_apart zoneId containerId).1 (locates _ member)
  have behind : .fetchContainer zoneId containerId ∉ changes := fun member =>
    (fetch_apart zoneId containerId).2 (changed _ member)
  simp [before, behind]

theorem Leaves.fetched {before after : Session Store} {located changes : List Call}
    {serving : Container} {result : Except Error Outcome}
    (locates : ∀ call ∈ located, Locates call) (changed : ∀ call ∈ changes, Changes call)
    (logged : after.platform.calls = before.platform.calls ++
      (located ++ .fetchContainer zoneId serving.summary.id :: changes))
    (first : ∀ serving, before.platform.serving? zoneId desired.category.phase = some serving →
      located = [.listContainers zoneId])
    (serves : (desired.provided zoneId before.platform).serving? zoneId desired.category.phase =
      some serving)
    (unrecorded : ∀ fault, result = .error fault → after.logbook = before.logbook ∧
      after.platform.holding = (desired.provided zoneId before.platform).holding)
    (decided : if .fetchContainer ∉ before.platform.failing ∧
        2 ≤ ((before.platform.rulesAt zoneId serving.summary.id).filter
          (·.tag == desired.tag)).length then
      result = .error (.duplicateTag serving.summary.id desired.tag
        ((before.platform.rulesAt zoneId serving.summary.id).filter
          (·.tag == desired.tag)).length) ∧ changes = []
      else ∀ fault, result = .error fault → fault.reportsSeveral = false) :
    desired.Leaves zoneId before after
      (located ++ .fetchContainer zoneId serving.summary.id :: changes) result where
  logged := logged
  unrecorded fault failed := (unrecorded fault failed).1
  untouched fault failed := by
    rw [Store.containers_of_holding (unrecorded fault failed).2]
    exact provided_containers desired zoneId before.platform
  several containerId tag count := by
    rw [fetched_iff locates changed]
    split at decided
    case isTrue several =>
      rw [decided.1]
      constructor
      · rintro ⟨⟩
        exact ⟨rfl, several.1, rfl, several.2, rfl⟩
      · rintro ⟨rfl, -, rfl, -, rfl⟩
        rfl
    case isFalse few =>
      constructor
      · exact fun failed => nomatch decided _ failed
      · rintro ⟨rfl, working, -, two, rfl⟩
        exact absurd ⟨working, two⟩ few
  selected containerId fetched := by
    rw [(fetched_iff locates changed).mp fetched, serves]
    rfl
  quiet containerId tag count failed := by
    split at decided
    case isTrue several =>
      obtain ⟨-, rfl⟩ := decided
      refine ⟨?_, fun serving' serves' => ?_⟩
      · intro call member
        rcases List.mem_append.mp member with member | member
        · exact (locates call member).unchanging
        · rw [List.mem_singleton.mp member]
          rfl
      · rw [provided_of_serving serves', serves'] at serves
        obtain rfl := Option.some.inj serves
        rw [first _ serves']
        rfl
    case isFalse few => exact nomatch decided _ failed

/-- A run over one entry that fails has changed no rule and recorded nothing, and has at most
provisioned the container that the entry needs.  It reports several rules with the tag of the entry
exactly when it has fetched a container in which there are several; it has then made no call that
changes a rule, nor one that creates a container where one serves.  The container that is fetched is
the one that the platform holds under the identifier that was selected. -/
theorem reconcile_leaves (available : session.logbook.available = true) :
    Leads runId now (desired.reconcile zoneId) session fun result after =>
      ∃ calls, desired.Leaves zoneId session after calls result := by
  unfold reconcile
  refine .bind (locate_ends.imp fun result middle ends => ?_)
  obtain ⟨logbook, failing, located, logged, locates, first, ends⟩ := ends
  cases result with
  | error fault =>
    obtain ⟨same, single⟩ := ends
    refine ⟨located, .unfetched logged locates ?_⟩
    rintro _ ⟨⟩
    exact ⟨logbook, Store.containers_of_holding same, single⟩
  | ok containerId =>
    cases ends with
    | nowhere same absent =>
      refine .bind (.noted (logbook ▸ available) (.pure ⟨located, .unfetched logged locates ?_⟩))
      exact fun fault failed => nomatch failed
    | somewhere serving container same serves found =>
      have held : session.platform.rulesAt zoneId serving.summary.id = container.rules :=
        (rulesAt_provided desired zoneId session.platform _ _).symm.trans
          (Store.rulesAt_of_container? found)
      have named : container.summary.id = serving.summary.id :=
        (Prod.mk.inj (Container.is_iff.mp (List.find?_some found))).2
      refine (visit_ends (logbook ▸ available)
        ((Store.container?_of_holding same _ _).trans found)).imp fun result after visited => ?_
      obtain ⟨changes, visits, changed, unsettled, decided⟩ := visited
      rw [logged, List.append_assoc] at visits
      rw [failing, named, ← held] at decided
      refine ⟨_, .fetched locates changed visits first serves (fun fault failed => ?_) decided⟩
      obtain ⟨quiet, unchanged⟩ := unsettled fault failed
      exact ⟨quiet.trans logbook, unchanged.trans same⟩

/-- Two rules have the tag of one entry. -/
def twinSession : Session Store where
  platform := { Store.empty with
    containers := [
      { Store.provisioned "zone" "fw" .firewall "zone" with
        rules := ["B1", "C1", "B2"].zipWith (fun id tag =>
            Store.ruleOf id ⟨tag, .block, "", true, none, none, none⟩)
          ["black_ip_a.io", "country_a.io", "black_ip_a.io"] }] }
  logbook := .empty "journal"

/-- No rule can be created. -/
def stuckSession : Session Store where
  platform := Store.empty.fail .createRule
  logbook := .empty "journal"

def blockingEntry : DesiredRule := ⟨.blacklist, "a.io", some ⟨.block, "", true, none, none⟩⟩

theorem reconcile_leaves_sample :
    (twinSession.logbook.available = true ∧ stuckSession.logbook.available = true) ∧
    Leads default default (blockingEntry.reconcile "zone") twinSession (fun result after =>
      result = .error (.duplicateTag "fw" "black_ip_a.io" 2) ∧
        ∃ calls, blockingEntry.Leaves "zone" twinSession after calls result) ∧
    Leads default default (blockingEntry.reconcile "zone") stuckSession (fun result after =>
      result.isOk = false ∧ after.platform.containers.length = 1 ∧
        ∃ calls, blockingEntry.Leaves "zone" stuckSession after calls result) := by
  have twins : Leads default default (blockingEntry.reconcile "zone") twinSession fun result _ =>
      result = .error (.duplicateTag "fw" "black_ip_a.io" 2) := by
    unfold Leads
    decide +kernel
  have stuck : Leads default default (blockingEntry.reconcile "zone") stuckSession
      fun result after => result.isOk = false ∧ after.platform.containers.length = 1 := by
    unfold Leads
    decide +kernel
  exact ⟨⟨rfl, rfl⟩, ⟨twins, reconcile_leaves rfl⟩, stuck.1, stuck.2, reconcile_leaves rfl⟩

end DesiredRule

end EdgePolicy
