import EdgePolicy.Condition.Json
import EdgePolicy.Json.Reader
import EdgePolicy.Proofs.Journal.Record
import EdgePolicy.Proofs.Json.Compact

/-
Conditions are read back from their JSON (`Condition.ofJson?_json`), and lists of them from the text
(`Condition.ofText?_text`).

The name of a field tells the field, except for a generic field under a catalogued name: it is read
back as the catalogued field (`Condition.catalogued_eq_iff`).
-/

set_option autoImplicit false
set_option relaxedAutoImplicit false

namespace EdgePolicy

open Json (Document Fields Value)

namespace Json

variable {α β : Type}

theorem map_optionalMember (name : String) (json : α → Value) (value : Option α) :
    (optionalMember name json value).map (fun member => (member.1, member.2.document)) =
      (value.map fun present => (name, (json present).document)).toList := by
  cases value <;> rfl

@[simp] theorem Fields.only?_nil (names : List String) : only? [] names = some none :=
  rfl

@[simp] theorem Fields.only?_cons (name : String) (document : Document) (rest : Fields)
    (names : List String) :
    only? ((name, document) :: rest) names =
      if names.contains name then
        (only? rest names).bind fun other =>
          if other.isNone then some (some document) else none
      else only? rest names := by
  unfold only?
  by_cases here : names.contains name = true
  · simp only [List.filter_cons, here, if_true]
    generalize List.filter _ rest = others
    rcases others with _ | ⟨_, _ | _⟩ <;> rfl
  · simp only [List.filter_cons, here, if_false, Bool.false_eq_true]

theorem list?_map {decode : Document → Option β} {json : α → Value} {f : α → β} {items : List α}
    (read : ∀ item ∈ items, decode (json item).document = some (f item)) :
    (Value.array (items.map json)).document.list? decode = some (items.map f) := by
  unfold Document.list?
  simp only [Value.document, Document.items?, Option.bind_eq_bind, Option.bind_some]
  induction items with
  | nil => rfl
  | cons item items ih =>
    obtain ⟨head, tail⟩ := List.forall_mem_cons.mp read
    rw [List.map_cons, itemDocuments, List.mapM_cons, head, ih tail]
    rfl

theorem list?_array {decode : Document → Option α} {json : α → Value} {items : List α}
    (read : ∀ item ∈ items, decode (json item).document = some item) :
    (Value.array (items.map json)).document.list? decode = some items := by
  rw [list?_map (f := id) read, List.map_id]

private theorem itemsAreWorded_map {json : α → Value} {items : List α}
    (worded : ∀ item ∈ items, (json item).isWorded = true) :
    itemsAreWorded (items.map json) = true := by
  induction items with
  | nil => rfl
  | cons item items ih =>
    obtain ⟨head, tail⟩ := List.forall_mem_cons.mp worded
    simp [itemsAreWorded, head, ih tail]

private theorem itemDocumentsAt_map {depth : Nat} {json : α → Value} {items : List α}
    (shallow : ∀ item ∈ items, (json item).documentAt depth = (json item).document) :
    itemDocumentsAt depth (items.map json) = itemDocuments (items.map json) := by
  induction items with
  | nil => rfl
  | cons item items ih =>
    obtain ⟨head, tail⟩ := List.forall_mem_cons.mp shallow
    simp [itemDocumentsAt, itemDocuments, head, ih tail]

end Json

namespace Field

theorem not_mem_catalogue_of_ofName {s path : String} (generic : ofName s = .generic path) :
    path ∉ catalogue := by
  unfold ofName at generic
  repeat' split at generic
  all_goals cases generic
  next header uri extension bot category source country =>
    simp [catalogue, header, uri, extension, bot, category, source, country]

end Field

namespace Operator

theorem ofJson?_json (operator : Operator) : ofJson? operator.json.document = some operator := by
  cases operator <;> rfl

end Operator

namespace Operand

theorem ofJson?_json (operand : Operand) : ofJson? operand.json.document = some operand := by
  cases operand with
  | flag value => rfl
  | one text => rfl
  | many texts =>
    have read : (Value.array (texts.map .string)).document.list? Document.string? = some texts :=
      Json.list?_array fun _ _ => rfl
    exact congrArg (Option.map many) read

end Operand

namespace Join

theorem ofJson?_json (join : Join) : ofJson? join.json.document = some join := by
  cases join <;> rfl

end Join

namespace Condition

/-- The field of a condition is known by its name. -/
def IsNamed (c : Condition) : Prop := ∀ path, c.field = .generic path → path ∉ Field.catalogue

/-- A condition with the field that is known by the name of its own. -/
def catalogued (c : Condition) : Condition := { c with field := Field.ofName c.field.name }

theorem catalogued_eq_iff {c : Condition} : c.catalogued = c ↔ c.IsNamed := by
  constructor
  · intro same path generic
    have name : Field.ofName path = .generic path := by
      have field := congrArg Condition.field same
      rwa [catalogued, generic] at field
    exact Field.not_mem_catalogue_of_ofName name
  · intro named
    rw [catalogued, Field.ofName_name named]

theorem ofJson?_json (c : Condition) : ofJson? c.json.document = some c.catalogued := by
  have field : Field.ofJson? c.field.json.document = some (Field.ofName c.field.name) := rfl
  have join : Join.ofJson? c.join.json.document = some c.join := Join.ofJson?_json c.join
  unfold ofJson? json catalogued
  rw [Json.record?_object, List.map_append, List.map_append, Json.map_optionalMember]
  obtain ⟨_, name, operator, operand, _⟩ := c
  cases name <;>
    simp [Fields.required?, Fields.optional?, Fields.withDefault?, field, join,
      Operator.ofJson?_json, Operand.ofJson?_json, Document.orNull?, Value.document,
      Document.string?]

/-- Conditions as the text of a JSON array. -/
def text (conditions : List Condition) : String := (Value.array (conditions.map json)).compact

/-- The conditions of the text of a JSON array. -/
def ofText? (text : String) : Option (List Condition) :=
  (Document.ofText? text).bind (Document.list? ofJson?)

private theorem isWorded_operand (operand : Operand) : operand.json.isWorded = true := by
  cases operand with
  | flag value => rfl
  | one text => rfl
  | many texts => exact Json.itemsAreWorded_map fun _ _ => rfl

private theorem documentAt_operand (operand : Operand) :
    operand.json.documentAt 2 = operand.json.document := by
  cases operand with
  | flag value => rfl
  | one text => rfl
  | many texts =>
    have items : Json.itemDocumentsAt 3 (texts.map Value.string) =
        Json.itemDocuments (texts.map Value.string) := Json.itemDocumentsAt_map fun _ _ => rfl
    exact congrArg Document.array items

private theorem isWorded_json (c : Condition) : c.json.isWorded = true := by
  obtain ⟨field, name, operator, operand, join⟩ := c
  cases name <;>
    simp [json, Json.optionalMember, Value.isWorded, Json.membersAreWorded, Field.json,
      Operator.json, Join.json, isWorded_operand]

theorem documentAt_json (c : Condition) : c.json.documentAt 1 = c.json.document := by
  obtain ⟨field, name, operator, operand, join⟩ := c
  cases name <;>
    simp [json, Json.optionalMember, Value.documentAt, Json.memberDocumentsAt, Value.document,
      Json.memberDocuments, Json.Reader.atDepth, Json.Reader.maxDepth, Field.json, Operator.json,
      Join.json, documentAt_operand]

/-- Conditions are read back from their text, their fields by name. -/
theorem ofText?_text (conditions : List Condition) :
    ofText? (text conditions) = some (conditions.map catalogued) := by
  have worded : (Value.array (conditions.map json)).isWorded = true :=
    Json.itemsAreWorded_map fun c _ => isWorded_json c
  have shallow : (Value.array (conditions.map json)).documentAt 0 =
      (Value.array (conditions.map json)).document :=
    congrArg Document.array (Json.itemDocumentsAt_map fun c _ => documentAt_json c)
  unfold ofText? text
  rw [Json.ofText?_compact (Json.isReadable_of_isWorded _ worded) shallow, Option.bind_some]
  exact Json.list?_map fun c _ => ofJson?_json c

/-- Conditions come back from their text as they were exactly if no generic field among them has a
catalogued name. -/
theorem ofText?_text_eq_iff (conditions : List Condition) :
    ofText? (text conditions) = some conditions ↔ ∀ c ∈ conditions, c.IsNamed := by
  have same := List.map_inj_left (f := catalogued) (g := id) (l := conditions)
  rw [ofText?_text, Option.some.injEq]
  simpa [catalogued_eq_iff] using same

end Condition

end EdgePolicy
