import EdgePolicy.Proofs.Condition.Document
import EdgePolicy.Proofs.Json.Free
import EdgePolicy.Zone.Rule

/-
Rules and containers are read back from their JSON.

A free value is portable when it survives its way into a response and out of it, and a rule when its
action and its parameters do.  A portable rule comes back as it was sent, except that parameters
that are `null` are none at the other end (`RemoteRule.received`).  The bounds on the heights say
that nothing portable is nested too deep in the envelope of a response.
-/

set_option autoImplicit false
set_option relaxedAutoImplicit false

namespace EdgePolicy

open Json (Document Fields Value)

namespace Json

/-- A free value that is read back from the parameters of a rule in a response: around it stand the
rule, the list of rules, the container and the envelope. -/
def Value.isPortable (value : Value) : Bool :=
  value.isSorted && value.isReadable && decide (4 + value.height ≤ Reader.maxDepth)

theorem Value.isPortable_iff {value : Value} :
    value.isPortable = true ↔ value.isSorted = true ∧ value.Travels 4 := by
  simp [isPortable, Travels, and_assoc]

/-- A free value that may be missing; `null` is missing. -/
def received : Option Value → Option Value
  | some .null => none
  | parameters => parameters

private theorem orNull?_document {value : Value} (sorted : value.isSorted = true) :
    Document.orNull? Document.value? value.document = some (received (some value)) := by
  have read := value?_document value sorted
  cases value <;> first | rfl | exact congrArg (Option.map some) read

end Json

def Action.isCanonical (action : Action) : Bool := Action.ofName action.name == action

theorem Action.isCanonical_ofName (name : String) : (Action.ofName name).isCanonical = true := by
  unfold isCanonical
  rw [name_ofName, beq_self_eq_true]

theorem Action.ofJson?_json {action : Action} (canonical : action.isCanonical = true) :
    ofJson? action.json.document = some action :=
  congrArg some (beq_iff_eq.mp canonical)

private theorem Logging.orNull?_json (logging : Logging) :
    Document.orNull? ofJson? logging.json.document = some (some logging) :=
  rfl

namespace RemoteRule

/-- A rule that is read back from a response. -/
def isPortable (rule : RemoteRule) : Bool :=
  rule.action.isCanonical && rule.parameters.all Value.isPortable

/-- A rule as it is read back. -/
def received (rule : RemoteRule) : RemoteRule :=
  { rule with parameters := Json.received rule.parameters }

@[simp] theorem received_id (rule : RemoteRule) : rule.received.id = rule.id := rfl

@[simp] theorem received_tag (rule : RemoteRule) : rule.received.tag = rule.tag := rfl

/-- A rule is read back with parameters as they are received, if its action is known by its name and
the members of its parameters are sorted. -/
theorem ofJson?_json_of_isSorted {rule : RemoteRule} (canonical : rule.action.isCanonical = true)
    (sorted : ∀ value, rule.parameters = some value → value.isSorted = true) :
    ofJson? rule.json.document = some rule.received := by
  have action := Action.ofJson?_json canonical
  unfold ofJson? json
  rw [Json.record?_object, List.map_append, List.map_append, Json.map_optionalMember,
    Json.map_optionalMember]
  obtain ⟨id, tag, expression, action', enabled, parameters', logging⟩ := rule
  cases parameters' with
  | none =>
    cases logging <;>
      simp [Fields.required?, Fields.optional?, Fields.withDefault?, action, received,
        Json.received, Value.document, Document.string?, Document.bool?, Logging.orNull?_json]
  | some value =>
    have read := Json.orNull?_document (sorted value rfl)
    cases logging <;>
      simp [Fields.required?, Fields.optional?, Fields.withDefault?, action, received,
        read, Value.document, Document.string?, Document.bool?, Value.itself,
        Logging.orNull?_json]

theorem ofJson?_json {rule : RemoteRule} (portable : rule.isPortable = true) :
    ofJson? rule.json.document = some rule.received := by
  obtain ⟨canonical, parameters⟩ := Bool.and_eq_true_iff.mp portable
  refine ofJson?_json_of_isSorted canonical fun value here => ?_
  rw [here] at parameters
  exact (Value.isPortable_iff.mp parameters).1

theorem travels_of_parameters {rule : RemoteRule} {depth : Nat}
    (low : depth + 2 ≤ Json.Reader.maxDepth)
    (inner : ∀ value, rule.parameters = some value → value.Travels (depth + 1)) :
    rule.json.Travels depth := by
  have low' : depth + 1 ≤ Json.Reader.maxDepth := Nat.le_of_succ_le low
  refine .object low' (List.forall_mem_append.mpr ⟨List.forall_mem_append.mpr ⟨?_, ?_⟩, ?_⟩)
  · simp only [List.forall_mem_cons]
    exact ⟨.string _ low', .string _ low', .string _ low', .string _ low', .bool _ low',
      List.forall_mem_nil _⟩
  · exact .optionalMember inner
  · exact .optionalMember fun logging _ => .object low
      (List.forall_mem_singleton.mpr (.bool _ low))

theorem travels {rule : RemoteRule} (portable : rule.isPortable = true) : rule.json.Travels 3 := by
  have parameters := (Bool.and_eq_true_iff.mp portable).2
  refine travels_of_parameters (by decide) fun value here => ?_
  rw [here] at parameters
  exact (Value.isPortable_iff.mp parameters).2

end RemoteRule

namespace ContainerSummary

theorem ofJson?_json (summary : ContainerSummary) :
    ofJson? summary.json.document = some summary := by
  unfold ofJson? json
  rw [Json.record?_object]
  simp [Fields.required?, Fields.withDefault?, Value.document, Document.string?]

theorem travels (summary : ContainerSummary) {depth : Nat} (low : depth < Json.Reader.maxDepth) :
    summary.json.Travels depth := by
  refine .object low ?_
  simp only [List.forall_mem_cons]
  exact ⟨.string _ low, .string _ low, .string _ low, .string _ low, List.forall_mem_nil _⟩

end ContainerSummary

namespace Snapshot

/-- A container as it is read back. -/
def received (snapshot : Snapshot) : Snapshot :=
  { snapshot with rules := snapshot.rules.map RemoteRule.received }

variable {snapshot : Snapshot}

theorem ofJson?_json (portable : ∀ rule ∈ snapshot.rules, rule.isPortable = true) :
    ofJson? snapshot.json.document = some snapshot.received := by
  have rules : (Value.array (snapshot.rules.map RemoteRule.json)).document.list?
      RemoteRule.ofJson? = some (snapshot.rules.map RemoteRule.received) :=
    Json.list?_map fun rule member => RemoteRule.ofJson?_json (portable rule member)
  unfold ofJson? json
  rw [Json.record?_object]
  simp only [List.map_cons, List.map_nil]
  simp [Fields.required?, Fields.withDefault?, rules, Json.string?_string, received]

theorem travels (portable : ∀ rule ∈ snapshot.rules, rule.isPortable = true) :
    snapshot.json.Travels 1 := by
  refine .object (by decide) ?_
  simp only [List.forall_mem_cons]
  refine ⟨.string _ (by decide), .string _ (by decide), .string _ (by decide),
    .array (by decide) ?_, List.forall_mem_nil _⟩
  exact List.forall_mem_map.mpr fun rule member => RemoteRule.travels (portable rule member)

end Snapshot

private theorem Position.orNull?_json (position : Position) :
    Document.orNull? ofJson? position.json.document = some (some position) := by
  cases position <;> rfl

/-- The parameters of a request, if there are any, are portable and not `null`. -/
def Json.areGiven (parameters : Option Value) : Bool :=
  parameters.all fun value =>
    value.isPortable && match value with
      | .null => false
      | _ => true

theorem Json.areGiven_some {value : Value} (given : areGiven (some value) = true) :
    value.isPortable = true ∧ received (some value) = some value := by
  obtain ⟨portable, other⟩ := Bool.and_eq_true_iff.mp given
  refine ⟨portable, ?_⟩
  cases value <;> first | rfl | cases other

namespace RuleBody

/-- Read the body of a call. -/
def ofJson? (document : Document) : Option RuleBody := do
  let fields ← document.fields?
  return {
    tag := ← fields.required? "description" Document.string?
    action := ← fields.required? "action" Action.ofJson?
    expression := ← fields.required? "expression" Document.string?
    enabled := ← fields.required? "enabled" Document.bool?
    parameters := ← fields.optional? "action_parameters" Document.value?
    logging := ← fields.optional? "logging" Logging.ofJson?
    position := ← fields.optional? "position" Position.ofJson? }

/-- A body that is read back from a request. -/
def isPortable (body : RuleBody) : Bool :=
  body.action.isCanonical && Json.areGiven body.parameters

theorem ofJson?_json {body : RuleBody} (portable : body.isPortable = true) :
    ofJson? body.json.document = some body := by
  obtain ⟨canonical, given⟩ := Bool.and_eq_true_iff.mp portable
  have action := Action.ofJson?_json canonical
  unfold ofJson? json
  rw [Json.fields?_object, List.map_append, List.map_append, List.map_append,
    Json.map_optionalMember, Json.map_optionalMember, Json.map_optionalMember]
  obtain ⟨tag, action', expression, enabled, parameters, logging, position⟩ := body
  cases parameters with
  | none =>
    cases logging <;> cases position <;>
      simp [Fields.required?, Fields.optional?, Fields.withDefault?, action,
        Value.document, Document.string?, Document.bool?, Logging.orNull?_json,
        Position.orNull?_json]
  | some value =>
    obtain ⟨portable, present⟩ := Json.areGiven_some given
    have read := Json.orNull?_document (Value.isPortable_iff.mp portable).1
    rw [present] at read
    cases logging <;> cases position <;>
      simp [Fields.required?, Fields.optional?, Fields.withDefault?, action, read,
        Value.document, Document.string?, Document.bool?, Value.itself, Logging.orNull?_json,
        Position.orNull?_json]

end RuleBody

end EdgePolicy
