import EdgePolicy.Proofs.Json.Covers
import EdgePolicy.Proofs.Zone.Changes
import EdgePolicy.Reconcile

/-
What bringing one rule to its desired state does.

`DesiredRule.Effect` says, outcome by outcome, how the rules with the tag of an entry stood before
and how they stand after; `DesiredRule.Entry` adds the calls that were made.  Every run of
`reconcile` concludes with an entry, or something hindered it: an operation that is failing, a
logbook out of reach, or a tag that two rules carry.  Either way only edits of its tag were made.
-/

set_option autoImplicit false
set_option relaxedAutoImplicit false

namespace EdgePolicy

open Session (Advance Leads)

def Outcome.operation? : Outcome → Option Operation
  | unchanged _ => none
  | created _ _ => some .createRule
  | patched _ => some .patchRule
  | deleted _ => some .deleteRule

/-- The operations among some calls that change a rule. -/
def Call.changes (calls : List Call) : List Operation :=
  (calls.map (·.operation)).filter (·.changesRule)

namespace DesiredRule

/-- The tag of an entry, in the phase of its category. -/
def targets (desired : DesiredRule) (phase : Phase) (tag : String) : Prop :=
  phase = desired.category.phase ∧ tag = desired.tag

/-- The objects of the desired parameters are maps. -/
def HasMaps (desired : DesiredRule) : Prop :=
  ∀ body, desired.body = some body → ∀ value, body.parameters = some value →
    value.hasDistinctNames = true

def Accepts (desired : DesiredRule) : Option RemoteRule → Prop
  | none => desired.body = none
  | some rule => ∃ body, desired.body = some body ∧ body.matches rule = true

/-- The rules of a zone with the tag of an entry, in the container of its phase. -/
def held (desired : DesiredRule) (zoneId : String) (store : Store) : List RemoteRule :=
  store.tagged zoneId desired.category.phase desired.tag

/-- The zone holds the rule as desired: exactly one with the body, or none. -/
def Settled (desired : DesiredRule) (zoneId : String) (store : Store) : Prop :=
  ∃ rule?, desired.held zoneId store = rule?.toList ∧ desired.Accepts rule?

/-- How the rules with the tag of an entry were changed. -/
inductive Effect (desired : DesiredRule) (zoneId : String) (before after : Store) : Outcome → Prop
  | unchanged (rule? : Option RemoteRule) (containers : after.containers = before.containers)
      (was : desired.held zoneId before = rule?.toList) (accepted : desired.Accepts rule?) :
      Effect desired zoneId before after (.unchanged (rule?.map (·.id)))
  | created (body : DesiredBody) (id : String) (position : Option Position)
      (wanted : desired.body = some body) (was : desired.held zoneId before = [])
      (becomes : desired.held zoneId after =
        [Store.ruleOf id (body.request desired.tag position)]) :
      Effect desired zoneId before after (.created id position)
  | patched (body : DesiredBody) (old : RemoteRule) (wanted : desired.body = some body)
      (was : desired.held zoneId before = [old]) (differs : body.matches old = false)
      (becomes : desired.held zoneId after = [Store.patched old (body.request desired.tag none)]) :
      Effect desired zoneId before after (.patched old.id)
  | deleted (old : RemoteRule) (unwanted : desired.body = none)
      (was : desired.held zoneId before = [old]) (becomes : desired.held zoneId after = []) :
      Effect desired zoneId before after (.deleted old.id)

/-- The effect of an entry and the calls that were made: those that change a rule are named by the
outcome, and only a rule that is created is worth a container. -/
structure Entry (desired : DesiredRule) (zoneId : String) (calls : List Call) (before after : Store)
    (outcome : Outcome) : Prop where
  effect : desired.Effect zoneId before after outcome
  changes : Call.changes calls = outcome.operation?.toList
  provisions : .createContainer ∈ calls.map (·.operation) → outcome.operation? = some .createRule

def Hindered (desired : DesiredRule) (zoneId : String) (session : Session Store) : Prop :=
  session.platform.failing ≠ [] ∨ session.logbook.available = false ∨
    1 < (desired.held zoneId session.platform).length

def Concludes (desired : DesiredRule) (zoneId : String) (session : Session Store)
    (result : Except Error Outcome) (after : Session Store) : Prop :=
  ∃ calls, Advance zoneId desired.targets calls session after ∧
    match result with
    | .ok outcome => desired.Entry zoneId calls session.platform after.platform outcome
    | .error _ => desired.Hindered zoneId session

end DesiredRule

section Bodies

variable {body : DesiredBody}

private theorem acceptsParameters_self
    (maps : ∀ value, body.parameters = some value → value.hasDistinctNames = true) :
    body.acceptsParameters body.parameters = true := by
  unfold DesiredBody.acceptsParameters
  cases wanted : body.parameters with
  | none => rfl
  | some value => exact Json.Value.covers_self value (maps value wanted)

theorem matches_ruleOf
    (maps : ∀ value, body.parameters = some value → value.hasDistinctNames = true) (id tag : String)
    (position : Option Position) :
    body.matches (Store.ruleOf id (body.request tag position)) = true := by
  simp [DesiredBody.matches, Store.ruleOf, DesiredBody.request, acceptsParameters_self maps]

theorem matches_patched
    (maps : ∀ value, body.parameters = some value → value.hasDistinctNames = true)
    (old : RemoteRule) (tag : String) (position : Option Position) :
    body.matches (Store.patched old (body.request tag position)) = true := by
  cases logging : body.logging with
  | none =>
    simp [DesiredBody.matches, Store.patched, Store.ruleOf, DesiredBody.request,
      acceptsParameters_self maps, logging]
  | some block =>
    simp [DesiredBody.matches, Store.patched, Store.ruleOf, DesiredBody.request,
      acceptsParameters_self maps, logging]

end Bodies

namespace DesiredRule

variable {desired : DesiredRule} {zoneId : String} {before after : Store} {outcome : Outcome}

theorem held_of_containers (containers : after.containers = before.containers) :
    desired.held zoneId after = desired.held zoneId before :=
  Store.tagged_of_containers containers _ _ _

theorem Effect.single (effect : desired.Effect zoneId before after outcome) :
    (desired.held zoneId after).length ≤ 1 := by
  cases effect with
  | unchanged rule? containers was accepted =>
    rw [held_of_containers containers, was]
    cases rule? <;> simp
  | created body id position wanted was becomes => simp [becomes]
  | patched body old wanted was differs becomes => simp [becomes]
  | deleted old unwanted was becomes => simp [becomes]

theorem Effect.settled (effect : desired.Effect zoneId before after outcome)
    (maps : desired.HasMaps) : desired.Settled zoneId after := by
  cases effect with
  | unchanged rule? containers was accepted =>
    exact ⟨rule?, (held_of_containers containers).trans was, accepted⟩
  | created body id position wanted was becomes =>
    exact ⟨some _, becomes, body, wanted, matches_ruleOf (maps body wanted) _ _ _⟩
  | patched body old wanted was differs becomes =>
    exact ⟨some _, becomes, body, wanted, matches_patched (maps body wanted) _ _ _⟩
  | deleted old unwanted was becomes => exact ⟨none, becomes, unwanted⟩

theorem Effect.of_settled (effect : desired.Effect zoneId before after outcome)
    (settled : desired.Settled zoneId before) :
    after.containers = before.containers ∧ ∃ ruleId?, outcome = .unchanged ruleId? := by
  obtain ⟨rule?, was, accepted⟩ := settled
  cases effect with
  | unchanged rule? containers _ _ => exact ⟨containers, _, rfl⟩
  | created body id position wanted was' becomes =>
    cases rule? with
    | none => exact nomatch wanted.symm.trans accepted
    | some rule => exact nomatch was'.symm.trans was
  | patched body old wanted was' differs becomes =>
    cases rule? with
    | none => exact nomatch was'.symm.trans was
    | some rule =>
      obtain ⟨body', wanted', matched⟩ := accepted
      obtain rfl := Option.some.inj (wanted.symm.trans wanted')
      obtain rfl : old = rule := by simpa using was'.symm.trans was
      exact nomatch differs.symm.trans matched
  | deleted old unwanted was' becomes =>
    cases rule? with
    | none => exact nomatch was'.symm.trans was
    | some rule =>
      obtain ⟨body', wanted', matched⟩ := accepted
      exact nomatch unwanted.symm.trans wanted'

theorem Entry.named {calls : List Call} (entry : desired.Entry zoneId calls before after outcome)
    {call : Call} (member : call ∈ calls) (changes : call.operation.changesRule = true) :
    outcome.operation? = some call.operation := by
  have listed : call.operation ∈ Call.changes calls :=
    List.mem_filter.mpr ⟨List.mem_map_of_mem member, changes⟩
  rw [entry.changes] at listed
  exact Option.mem_toList.mp listed

theorem Entry.of_unwanted {calls : List Call}
    (entry : desired.Entry zoneId calls before after outcome)
    (unwanted : desired.body = none) : ∀ call ∈ calls,
      call.operation ∉ [Operation.createContainer, .createRule, .patchRule] := by
  have names : outcome.operation? ≠ some .createRule ∧ outcome.operation? ≠ some .patchRule := by
    cases entry.effect with
    | unchanged rule? containers was accepted => exact ⟨nofun, nofun⟩
    | created body id position wanted was becomes => exact nomatch unwanted.symm.trans wanted
    | patched body old wanted was differs becomes => exact nomatch unwanted.symm.trans wanted
    | deleted old unwanted was becomes => exact ⟨nofun, nofun⟩
  intro call member bad
  simp only [List.mem_cons, List.not_mem_nil, or_false] at bad
  rcases bad with creates | changes | changes
  · exact names.1 (entry.provisions (creates ▸ List.mem_map_of_mem member))
  · exact names.1 (changes ▸ entry.named member (by rw [changes]; rfl))
  · exact names.2 (changes ▸ entry.named member (by rw [changes]; rfl))

theorem Entry.of_unchanged {calls : List Call} {ruleId? : Option String}
    (entry : desired.Entry zoneId calls before after (.unchanged ruleId?)) : ∀ call ∈ calls,
      call.operation ∉ [Operation.createContainer, .createRule, .patchRule, .deleteRule] := by
  intro call member bad
  simp only [List.mem_cons, List.not_mem_nil, or_false] at bad
  rcases bad with creates | changes | changes | changes
  · exact nomatch entry.provisions (creates ▸ List.mem_map_of_mem member)
  all_goals exact nomatch entry.named member (by rw [changes]; rfl)

end DesiredRule

end EdgePolicy
