import EdgePolicy.Condition.Group
import EdgePolicy.Condition.Json
import EdgePolicy.Expression.Shape
import EdgePolicy.Expression.Split

/-
Decompiling an expression into groups of conditions.

The grammar has one level of grouping: groups in parentheses joined by `or`, each of clauses joined
by `and` with a host clause at the end, all for one host.  Clauses that no shape recognises are kept
apart with their place; everything outside the grammar is a fault.
-/

set_option autoImplicit false
set_option relaxedAutoImplicit false

namespace EdgePolicy

/-- A clause that no shape recognises: its group, its place in the group and its text. -/
structure SkippedClause where
  group : Nat
  position : Nat
  raw : String
deriving DecidableEq, Repr, Inhabited

/-- What an expression says: a host, groups of conditions, and the clauses left over. -/
structure Decompiled where
  host : String
  groups : List Group
  skipped : List SkippedClause
deriving DecidableEq, Repr

def Decompiled.isLossless (decompiled : Decompiled) : Bool :=
  decompiled.skipped.isEmpty

def Decompiled.conditions (decompiled : Decompiled) : List Condition :=
  Group.flatten decompiled.groups

def SkippedClause.json (clause : SkippedClause) : Json.Value :=
  .object [("group", .natural clause.group), ("position", .natural clause.position),
    ("raw", .string clause.raw)]

def Decompiled.json (decompiled : Decompiled) : Json.Value :=
  .object [("host", .string decompiled.host),
    ("groups", .array (decompiled.groups.map Group.json)),
    ("skipped", .array (decompiled.skipped.map SkippedClause.json))]

namespace Expression

open Text (trimChars)

def groupInside (raw : List Char) : Except ExpressionFault (List Char) :=
  let fault := ExpressionFault.notParenthesized (String.ofList (trimChars raw))
  match trimChars raw with
  | '(' :: rest =>
    if rest.getLast? = some ')' ∧ isBalanced rest.dropLast then .ok rest.dropLast else .error fault
  | _ => .error fault

/-- Refuse a clause that only a nested grammar could hold. -/
def checkClause (raw : List Char) : Except ExpressionFault Unit := do
  let clause := trimChars raw
  if clause.head? = some '(' then .error (.nested (String.ofList clause))
  if 1 < (← split orWord clause).length then .error (.innerOr (String.ofList clause))
  if (host? clause).isSome then .error .severalHosts

structure GroupReading where
  host : String
  conditions : List Condition
  skipped : List SkippedClause
deriving DecidableEq, Repr

def readClauses (group : Nat) : Nat → List (List Char) →
    Except ExpressionFault (List Condition × List SkippedClause)
  | _, [] => .ok ([], [])
  | position, raw :: rest => do
    checkClause raw
    let (conditions, skipped) ← readClauses group (position + 1) rest
    match condition? raw with
    | some condition => return (condition :: conditions, skipped)
    | none => return (conditions, ⟨group, position, String.ofList (trimChars raw)⟩ :: skipped)

def trailingHost (group : Nat) (clauses : List (List Char)) : Except ExpressionFault String :=
  match clauses.getLast?.bind host? with
  | some host => .ok host
  | none => .error (.noHost group)

def readGroup (alone : Bool) (group : Nat) (expected : Option String) (raw : List Char) :
    Except ExpressionFault GroupReading := do
  let clauses ← split andWord (← groupInside raw)
  let host ← trailingHost group clauses
  match expected with
  | some other => if other ≠ host then .error (.differentHosts other host)
  | none => pure ()
  let (conditions, skipped) ← readClauses group 0 clauses.dropLast
  if conditions.isEmpty && skipped.isEmpty && !alone then .error (.hostOnly group)
  return ⟨host, conditions, skipped⟩

def readGroups (alone : Bool) : Nat → Option String → List (List Char) →
    Except ExpressionFault (List GroupReading)
  | _, _, [] => .ok []
  | group, expected, raw :: rest => do
    let reading ← readGroup alone group expected raw
    return reading :: (← readGroups alone (group + 1) (some reading.host) rest)

/-- The groups that were read, as the flat list that is partitioned anew: the first condition of each
is marked as the beginning of a group. -/
def marked (groups : List Group) : List Condition :=
  groups.flatMap fun group => (group.tagged .or).conditions

/-- Put the readings of the groups of an expression together. -/
def assemble (readings : List GroupReading) : Decompiled where
  host := (readings.head?.map (·.host)).getD ""
  groups := Group.partition
    (marked (readings.filterMap fun reading => Group.ofList? reading.conditions))
  skipped := readings.flatMap (·.skipped)

def decompileChars (cs : List Char) : Except ExpressionFault Decompiled := do
  let cs := trimChars cs
  if cs.isEmpty then .error .empty
  let raws ← split orWord cs
  return assemble (← readGroups (raws.length == 1) 0 none raws)

def decompile (expression : String) : Except ExpressionFault Decompiled :=
  decompileChars expression.toList

end Expression

end EdgePolicy
