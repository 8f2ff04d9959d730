import EdgePolicy.Condition.Group
import EdgePolicy.Expression.Clause

/-
Compiling groups of conditions into one expression.

Every group is written between parentheses as its clauses and a host clause joined by `and`; the
groups are joined by `or`.  Without groups the expression is the host clause alone.
-/

set_option autoImplicit false
set_option relaxedAutoImplicit false

namespace EdgePolicy.Expression

def joinWith (separator : List Char) (texts : List (List Char)) : List Char :=
  separator.intercalate texts

/-- Clauses joined by `and` between parentheses. -/
def groupText (clauses : List (List Char)) : List Char :=
  '(' :: joinWith " and ".toList clauses ++ [')']

def compileGroup (domain : String) (conditions : List Condition) :
    Except ConditionFault (List Char) := do
  return groupText ((← conditions.mapM clause) ++ [hostClause domain])

def compileChars (groups : List Group) (domain : String) : Except ConditionFault (List Char) :=
  if Text.isBlankText domain then .error .blankDomain
  else if groups.isEmpty then .ok (groupText [hostClause domain])
  else do
    return joinWith " or ".toList (← groups.mapM fun group => compileGroup domain group.conditions)

def compile (groups : List Group) (domain : String) : Except ConditionFault String :=
  (compileChars groups domain).map String.ofList

end EdgePolicy.Expression
