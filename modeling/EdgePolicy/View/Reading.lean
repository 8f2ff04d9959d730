import EdgePolicy.Error
import EdgePolicy.Expression.Decompile
import EdgePolicy.Policy.Category

/-
Reading the rules of a container back.

A rule that cannot be read, or only in part, is listed with its expression and the reason.
-/

set_option autoImplicit false
set_option relaxedAutoImplicit false

namespace EdgePolicy

open Json (Value)

/-- Why a rule is listed as unreadable. -/
inductive ReadingFault where
  | clauses (skipped : List SkippedClause)
  | noCondition (field : Field)
  | expression (fault : ExpressionFault)
  | parameters
deriving DecidableEq, Repr

namespace ReadingFault

def message : ReadingFault → String
  | clauses _ => "unrecognized clauses"
  | noCondition field => s!"no {field.name} condition"
  | expression fault => (Error.expression fault).message
  | parameters => "unreadable cache parameters"

def skipped : ReadingFault → List SkippedClause
  | clauses skipped => skipped
  | _ => []

end ReadingFault

/-- A rule that could not be read, or was read only in part. -/
structure UnreadableRule where
  tag : String
  expression : String
  fault : ReadingFault
deriving DecidableEq, Repr

namespace UnreadableRule

def of (rule : RemoteRule) (fault : ReadingFault) : UnreadableRule :=
  ⟨rule.tag, rule.expression, fault⟩

def json (rule : UnreadableRule) : Value :=
  .object <|
    [("tag", .string rule.tag), ("expression", .string rule.expression),
      ("reason", .string rule.fault.message)]
      ++ match rule.fault.skipped with
        | [] => []
        | skipped => [("clauses", .array (skipped.map SkippedClause.json))]

end UnreadableRule

namespace RemoteRule

/-- What a rule says, with a listing if it could not be read completely. -/
def reading (rule : RemoteRule) : Option Decompiled × List UnreadableRule :=
  match Expression.decompile rule.expression with
  | .ok decompiled =>
    (some decompiled,
      if decompiled.isLossless then [] else [.of rule (.clauses decompiled.skipped)])
  | .error fault => (none, [.of rule (.expression fault)])

def category? (rule : RemoteRule) : Option Category :=
  (Category.parseTag? rule.tag).map (·.1)

/-- The host of a rule and its first condition on a field, with a listing for whatever could not be
read. -/
def readingOn (rule : RemoteRule) (field : Field) :
    Option (String × Condition) × List UnreadableRule :=
  match rule.reading with
  | (none, listed) => (none, listed)
  | (some decompiled, listed) =>
    match (decompiled.groups.flatMap (·.conditions)).find? (·.field == field) with
    | some condition => (some (decompiled.host, condition), listed)
    | none => (none, listed ++ [.of rule (.noCondition field)])

end RemoteRule

def Json.mapped {α : Type} (json : α → Value) (entries : List (String × α)) : Value :=
  .object (entries.map fun entry => (entry.1, json entry.2))

end EdgePolicy
