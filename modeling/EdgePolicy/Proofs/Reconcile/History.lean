import EdgePolicy.Proofs.Reconcile.Revision
import EdgePolicy.Proofs.Zone.Order

/-
What stays true of a container while entries are reconciled one after another.

A run over one entry leaves the container that serves a phase of a zone as it is, provides it
without rules, or revises it.  So that container stays the same one (`Reconciles.serves`), and what
holds of no rules and is kept by every revision holds of it after every history of runs
(`Reconciles.keeps`), whether or not they succeed.
-/

set_option autoImplicit false
set_option relaxedAutoImplicit false

namespace EdgePolicy

open Session (onStore)

/-- A property of the rules of a container and the number of identifiers handed out, which empty
containers have and which is kept while identifiers are handed out. -/
structure RuleInvariant (inv : Nat → List RemoteRule → Prop) : Prop where
  nil : ∀ issued, inv issued []
  mono : ∀ issued issued' rules, issued ≤ issued' → inv issued rules → inv issued' rules

namespace Store

/-- The container that serves a phase of a zone, if there is one, has a property. -/
def Keeps (inv : Nat → List RemoteRule → Prop) (zoneId : String) (phase : Phase)
    (store : Store) : Prop :=
  ∀ container, store.serving? zoneId phase = some container → inv store.issued container.rules

variable {store other : Store} {zoneId zoneId' containerId : String} {phase phase' : Phase}
  {container fetched : Container} {inv : Nat → List RemoteRule → Prop}

theorem Keeps.congr (keeps : store.Keeps inv zoneId phase) (same : other.holding = store.holding) :
    other.Keeps inv zoneId phase := by
  intro container serves
  rw [serving?_of_holding same] at serves
  rw [issued_of_holding same]
  exact keeps container serves

/-- When a container is provisioned, each phase of a zone is served as before, or by an empty
container if by none before. -/
private theorem serving?_after_provision (store : Store) (zoneId zoneId' : String)
    (phase phase' : Phase) :
    (store.provision zoneId' phase').serving? zoneId phase = store.serving? zoneId phase ∨
      store.serving? zoneId phase = none ∧
        ∀ container, (store.provision zoneId' phase').serving? zoneId phase = some container →
          container.rules = [] := by
  unfold serving?
  have appended : (store.provision zoneId' phase').containers = store.containers ++
      [provisioned zoneId' s!"ruleset-{store.issued + 1}" phase' "zone"] := rfl
  rw [appended, List.find?_append]
  cases store.containers.find? (Container.servesIn zoneId phase) with
  | some earlier => exact .inl rfl
  | none =>
    refine .inr ⟨rfl, fun container serves => ?_⟩
    rw [Option.none_or] at serves
    obtain rfl := List.mem_singleton.mp (List.mem_of_find?_eq_some serves)
    rfl

/-- When the rules of a container are replaced, each phase is served as before, or it is served by
that container, which belongs to the zone. -/
private theorem serving?_after_withRules
    (found : store.container? zoneId' containerId = some fetched)
    (zoneId : String) (phase : Phase) (rules : List RemoteRule) :
    (store.withRules zoneId' containerId rules).serving? zoneId phase =
        store.serving? zoneId phase ∨
      zoneId' = zoneId ∧ store.serving? zoneId phase = some fetched ∧
        (store.withRules zoneId' containerId rules).serving? zoneId phase =
          some { fetched with rules } := by
  obtain ⟨front, back, shape, absent, here⟩ := container?_split found
  unfold serving?
  rw [withRules_containers shape absent here rules, shape, List.find?_append, List.find?_append]
  cases front.find? (Container.servesIn zoneId phase) with
  | some earlier => exact .inl rfl
  | none =>
    have same : Container.servesIn zoneId phase { fetched with rules } =
        fetched.servesIn zoneId phase := rfl
    rw [Option.none_or, Option.none_or, List.find?_cons, List.find?_cons, same]
    cases serving : fetched.servesIn zoneId phase with
    | false => exact .inl rfl
    | true =>
      have zone := congrArg Prod.fst (Container.is_iff.mp here)
      simp only [Container.servesIn, Bool.and_eq_true, beq_iff_eq] at serving
      exact .inr ⟨zone.symm.trans serving.1, rfl, rfl⟩

end Store

namespace DesiredRule

variable {desired : DesiredRule} {zoneId zoneId' : String} {phase : Phase}
  {before after : Store} {container : Container} {outcome : Outcome}
  {result : Except Error Outcome} {rules : List RemoteRule} {issued number : Nat}
  {inv : Nat → List RemoteRule → Prop}

theorem Revision.issued_le (revision : desired.Revision container number outcome rules issued) :
    number ≤ issued := by
  cases revision <;> omega

private theorem issued_le_provided (desired : DesiredRule) (zoneId : String) (store : Store) :
    store.issued ≤ (desired.provided zoneId store).issued := by
  unfold provided
  split
  · exact Nat.le_succ store.issued
  · exact Nat.le_refl store.issued

private theorem serving?_after_provided (desired : DesiredRule) (before : Store)
    (zoneId zoneId' : String) (phase : Phase) :
    (desired.provided zoneId' before).serving? zoneId phase = before.serving? zoneId phase ∨
      before.serving? zoneId phase = none ∧
        ∀ container, (desired.provided zoneId' before).serving? zoneId phase = some container →
          container.rules = [] := by
  unfold provided
  split
  · exact Store.serving?_after_provision _ _ _ _ _
  · exact .inl rfl

private theorem keeps_provided (invariant : RuleInvariant inv)
    (keeps : before.Keeps inv zoneId phase) :
    (desired.provided zoneId' before).Keeps inv zoneId phase := by
  intro container serves
  rcases serving?_after_provided desired before zoneId zoneId' phase with same | ⟨-, empty⟩
  · rw [same] at serves
    exact invariant.mono _ _ _ (issued_le_provided desired zoneId' before) (keeps container serves)
  · rw [empty container serves]
    exact invariant.nil _

/-- Every revision that an entry may make of the container that serves a phase of a zone keeps a
property. -/
def Revises (inv : Nat → List RemoteRule → Prop) (desired : DesiredRule) (zoneId : String)
    (phase : Phase) (before : Store) (outcome : Outcome) : Prop :=
  ∀ container number rules issued,
    before.serving? zoneId phase = some container ∨ container.rules = [] →
      inv number container.rules →
        desired.Revision container number outcome rules issued → inv issued rules

/-- Where an entry is carried out, each phase is served as it is where the entry has its container,
or the serving container is revised. -/
theorem Carried.serving? (carried : desired.Carried zoneId' before outcome after.holding)
    (zoneId : String) (phase : Phase) :
    (desired.provided zoneId' before).issued ≤ after.issued ∧
      (after.serving? zoneId phase = (desired.provided zoneId' before).serving? zoneId phase ∨
        zoneId' = zoneId ∧ ∃ container rules,
          (desired.provided zoneId' before).serving? zoneId phase = some container ∧
            after.serving? zoneId phase = some { container with rules } ∧
            desired.Revision container (desired.provided zoneId' before).issued outcome rules
              after.issued) := by
  generalize holds : after.holding = holding at carried
  cases carried with
  | idle unwanted absent =>
    rw [provided_of_unwanted unwanted]
    exact ⟨Nat.le_of_eq (Store.issued_of_holding holds).symm,
      .inl (Store.serving?_of_holding holds zoneId phase)⟩
  | @revised outcome rules issued serving fetched serves found revision =>
    have containers : after.containers = ((desired.provided zoneId' before).withRules zoneId'
      serving.summary.id rules).containers := congrArg Prod.fst holds
    obtain rfl : after.issued = issued := congrArg Prod.snd holds
    have same : after.serving? zoneId phase = ((desired.provided zoneId' before).withRules zoneId'
        serving.summary.id rules).serving? zoneId phase := by
      unfold Store.serving?
      rw [containers]
    refine ⟨revision.issued_le, ?_⟩
    rw [same]
    refine (Store.serving?_after_withRules found zoneId phase rules).imp_right ?_
    rintro ⟨zone, here, now⟩
    exact ⟨zone, fetched, rules, here, now, revision⟩

/-- A property that every revision keeps is kept where an entry is carried out. -/
theorem Carried.keeps (carried : desired.Carried zoneId' before outcome after.holding)
    (invariant : RuleInvariant inv)
    (revises : zoneId' = zoneId → desired.Revises inv zoneId phase before outcome)
    (keeps : before.Keeps inv zoneId phase) : after.Keeps inv zoneId phase := by
  have provided : (desired.provided zoneId' before).Keeps inv zoneId phase :=
    keeps_provided invariant keeps
  obtain ⟨grown, same | ⟨zone, fetched, rules, here, now, revision⟩⟩ :=
    carried.serving? zoneId phase
  · intro container serves
    rw [same] at serves
    exact invariant.mono _ _ _ grown (provided container serves)
  · intro container serves
    obtain rfl := Option.some.inj (now.symm.trans serves)
    refine revises zone fetched _ rules _ ?_ (provided fetched here) revision
    rcases serving?_after_provided desired before zoneId zoneId' phase with same | ⟨-, empty⟩
    · exact .inl (same.symm.trans here)
    · exact .inr (empty fetched here)

/-- A property that every revision keeps is kept by a run over an entry, however it ends. -/
theorem Carries.keeps (carries : desired.Carries zoneId' before result after.holding)
    (invariant : RuleInvariant inv)
    (revises : ∀ outcome, (∀ told, result = .ok told → told = outcome) → zoneId' = zoneId →
      desired.Revises inv zoneId phase before outcome)
    (keeps : before.Keeps inv zoneId phase) : after.Keeps inv zoneId phase := by
  cases result with
  | ok outcome =>
    have told : ∀ told, (.ok outcome : Except Error Outcome) = .ok told → told = outcome :=
      fun told same => (Except.ok.inj same).symm
    exact Carried.keeps carries invariant (revises outcome told) keeps
  | error fault =>
    rcases carries with same | same | ⟨outcome, carried⟩
    · exact keeps.congr same
    · exact (keeps_provided invariant keeps).congr same
    · exact carried.keeps invariant (revises outcome nofun) keeps

private theorem provided_of_served (serves : before.serving? zoneId phase = some container) :
    (desired.provided zoneId' before).serving? zoneId phase = some container := by
  rcases serving?_after_provided desired before zoneId zoneId' phase with same | ⟨absent, -⟩
  · rw [same, serves]
  · exact nomatch absent.symm.trans serves

/-- The container that serves a phase is the same one after a run over an entry, however it
ends. -/
theorem Carries.serves (carries : desired.Carries zoneId' before result after.holding)
    (serves : before.serving? zoneId phase = some container) :
    ∃ container', after.serving? zoneId phase = some container' ∧
      container'.summary = container.summary := by
  have provided : (desired.provided zoneId' before).serving? zoneId phase = some container :=
    provided_of_served serves
  have carriedOut : ∀ outcome, desired.Carried zoneId' before outcome after.holding →
      ∃ container', after.serving? zoneId phase = some container' ∧
        container'.summary = container.summary := by
    intro outcome carried
    obtain ⟨-, same | ⟨-, fetched, rules, here, now, -⟩⟩ := carried.serving? zoneId phase
    · exact ⟨container, same.trans provided, rfl⟩
    · obtain rfl := Option.some.inj (here.symm.trans provided)
      exact ⟨_, now, rfl⟩
  cases result with
  | ok outcome => exact carriedOut outcome carries
  | error fault =>
    rcases carries with same | same | ⟨outcome, carried⟩
    · exact ⟨container, (Store.serving?_of_holding same zoneId phase).trans serves, rfl⟩
    · exact ⟨container, (Store.serving?_of_holding same zoneId phase).trans provided, rfl⟩
    · exact carriedOut outcome carried

end DesiredRule

/-- Entries reconciled one after another, and between them whatever is not about containers is set.
What is asked of each run may depend on the platform before it, the zone, the entry and the
result. -/
inductive Session.Reconciles
    (admits : Store → String → DesiredRule → Except Error Outcome → Prop) :
    Session Store → Session Store → Prop
  | done (session : Session Store) : Reconciles admits session session
  | reconciled {session after : Session Store} (runId : RunId) (now : Timestamp)
      (zoneId : String) (desired : DesiredRule)
      (admitted : admits session.platform zoneId desired
        (onStore runId now (desired.reconcile zoneId) session).1)
      (more : Reconciles admits (onStore runId now (desired.reconcile zoneId) session).2 after) :
      Reconciles admits session after
  | set {session after : Session Store} (changed : Session Store)
      (containers : changed.platform.containers = session.platform.containers)
      (issued : changed.platform.issued = session.platform.issued)
      (more : Reconciles admits changed after) : Reconciles admits session after

namespace Session.Reconciles

variable {admits : Store → String → DesiredRule → Except Error Outcome → Prop}
  {inv : Nat → List RemoteRule → Prop} {zoneId : String} {phase : Phase}
  {session last : Session Store}

/-- The container that serves a phase is the same one after every history of runs. -/
theorem serves (history : Session.Reconciles admits session last) {container : Container}
    (serves : session.platform.serving? zoneId phase = some container) :
    ∃ container', last.platform.serving? zoneId phase = some container' ∧
      container'.summary = container.summary := by
  induction history generalizing container with
  | done session => exact ⟨container, serves, rfl⟩
  | @reconciled session after runId now zoneId' desired admitted more ih =>
    have carries : desired.Carries zoneId' session.platform
        (onStore runId now (desired.reconcile zoneId') session).1
        (onStore runId now (desired.reconcile zoneId') session).2.platform.holding :=
      DesiredRule.reconcile_carries
    obtain ⟨middle, served, same⟩ := carries.serves serves
    obtain ⟨container', served', same'⟩ := ih served
    exact ⟨container', served', same'.trans same⟩
  | set changed containers issued more ih =>
    exact ih ((Store.serving?_of_holding (Store.holding_eq containers issued) _ _).trans serves)

/-- A property that every admitted run keeps is kept by every history of such runs. -/
theorem keeps (history : Session.Reconciles admits session last) (invariant : RuleInvariant inv)
    (revises : ∀ store desired result outcome, admits store zoneId desired result →
      (∀ told, result = .ok told → told = outcome) →
        desired.Revises inv zoneId phase store outcome)
    (keeps : session.platform.Keeps inv zoneId phase) : last.platform.Keeps inv zoneId phase := by
  induction history with
  | done session => exact keeps
  | @reconciled session after runId now zoneId' desired admitted more ih =>
    have carries : desired.Carries zoneId' session.platform
        (onStore runId now (desired.reconcile zoneId') session).1
        (onStore runId now (desired.reconcile zoneId') session).2.platform.holding :=
      DesiredRule.reconcile_carries
    refine ih (carries.keeps invariant ?_ keeps)
    rintro outcome told rfl
    exact revises _ desired _ outcome admitted told
  | set changed containers issued more ih =>
    exact ih (keeps.congr (Store.holding_eq containers issued))

end Session.Reconciles

end EdgePolicy
