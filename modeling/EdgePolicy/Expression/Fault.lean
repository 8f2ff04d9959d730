import EdgePolicy.Condition.Basic
import EdgePolicy.Text.Quoted

/-
What can be wrong with a condition or an expression.

A condition that cannot be written is a `ConditionFault`; a text outside the grammar of one level of
grouping is an `ExpressionFault`.
-/

set_option autoImplicit false
set_option relaxedAutoImplicit false

namespace EdgePolicy

open Text (shown)

/-- Why a condition cannot be written as a clause. -/
inductive ConditionFault where
  | blankDomain
  | operator (operator : Operator) (field : Field)
  | needsText (operator : Operator) (field : Field)
  | needsSet (operator : Operator)
  | emptySet (operator : Operator) (field : Field)
  | needsFlag
  | headerName
  | fieldPath (path : String)
  | hostField
  | wildcardQuote
  | notToken (item : String)
deriving DecidableEq, Repr

def ConditionFault.message : ConditionFault → String
  | blankDomain => "domain must not be empty"
  | operator op field => s!"operator {op.token} is not supported for field {field.name}"
  | needsText op field => s!"operator {op.token} on {field.name} takes a single string value"
  | needsSet op => s!"operator {op.token} takes a set of values"
  | emptySet op field => s!"operator {op.token} on {field.name} needs at least one value"
  | needsFlag => "bot_known takes a boolean value"
  | headerName => "header condition needs a header name"
  | fieldPath path => s!"field name {shown path} is not a valid http.* path"
  | hostField => "http.host is implied by the rule domain"
  | wildcardQuote => "wildcard pattern cannot contain a double quote"
  | notToken item => s!"IP set entry {shown item} is not a bare token"

/-- Why an expression is outside the supported grammar. -/
inductive ExpressionFault where
  | empty
  | unbalanced (text : String)
  | unterminated (text : String)
  | notParenthesized (group : String)
  | noHost (group : Nat)
  | differentHosts (first second : String)
  | nested (clause : String)
  | innerOr (clause : String)
  | severalHosts
  | hostOnly (group : Nat)
deriving DecidableEq, Repr

def ExpressionFault.message : ExpressionFault → String
  | empty => "expression is empty"
  | unbalanced text => s!"unbalanced ')' in {shown text}"
  | unterminated text => s!"unterminated string or group in {shown text}"
  | notParenthesized group => s!"group is not parenthesized: {shown group}"
  | noHost group => s!"group {group} has no trailing host clause"
  | differentHosts first second =>
    s!"groups name different hosts: {shown first} and {shown second}"
  | nested clause => s!"nested group {shown clause}"
  | innerOr clause => s!"'or' inside a group: {shown clause}"
  | severalHosts => "more than one host clause in a group"
  | hostOnly group => s!"host-only group {group} inside a disjunction"

end EdgePolicy
