import EdgePolicy.Condition.Group
import EdgePolicy.Json.Document

/-
Conditions as JSON.

A condition is an object with `field`, `name`, `operator`, `value` and `logicalOperator`.  The name
is left out when absent; the join is always written and reads as `none` when missing or `null`.
-/

set_option autoImplicit false
set_option relaxedAutoImplicit false

namespace EdgePolicy

open Json (Document Value)

def Field.json (field : Field) : Value := .string field.name

def Field.ofJson? (document : Document) : Option Field :=
  document.string?.map ofName

def Operator.json (operator : Operator) : Value := .string operator.token

def Operator.ofJson? (document : Document) : Option Operator :=
  document.variant?.bind ofToken?

def Operand.json : Operand → Value
  | flag value => .bool value
  | one text => .string text
  | many texts => .strings texts

/-- Read an operand: a truth value, a string or an array of strings. -/
def Operand.ofJson? (document : Document) : Option Operand :=
  match document with
  | .bool value => some (flag value)
  | .string text => text.map one
  | .array _ => document.strings?.map many
  | _ => none

namespace Join

def word : Join → String
  | none => "none"
  | and => "and"
  | or => "or"

def ofWord? (s : String) : Option Join :=
  [Join.none, Join.and, Join.or].find? fun join => join.word = s

def json (join : Join) : Value := .string join.word

def ofJson? : Document → Option Join
  | .null => some none
  | document => document.variant?.bind ofWord?

end Join

namespace Condition

def json (condition : Condition) : Value :=
  .object <|
    [("field", condition.field.json)]
      ++ Json.optionalMember "name" Value.string condition.name
      ++ [("operator", condition.operator.json), ("value", condition.operand.json),
        ("logicalOperator", condition.join.json)]

def ofJson? (document : Document) : Option Condition := do
  let fields ← document.record? ["field", "name", "operator", "value"] ["logicalOperator"]
  return {
    field := ← fields.required? "field" Field.ofJson?
    name := ← fields.optional? "name" Document.string?
    operator := ← fields.required? "operator" Operator.ofJson?
    operand := ← fields.required? "value" Operand.ofJson?
    join := ← fields.withDefault? ["logicalOperator"] .none Join.ofJson? }

end Condition

def Group.json (group : Group) : Value := .array (group.conditions.map Condition.json)

end EdgePolicy
