import EdgePolicy.View.Reading

/-
The custom rules of hosts, read back from rules.

The entries are sorted by host; the rules of a host stand in the order of the container.
-/

set_option autoImplicit false
set_option relaxedAutoImplicit false

namespace EdgePolicy

open Json (Value insertMember)

/-- A custom rule as a flat list of conditions, with the clauses left over. -/
structure CustomRuleView where
  key : CustomKey
  action : Action
  conditions : List Condition
  skipped : List SkippedClause
deriving DecidableEq, Repr

def CustomRuleView.json (view : CustomRuleView) : Value :=
  .object [("field", view.key.json), ("action", view.action.json),
    ("conditions", .array (view.conditions.map Condition.json)),
    ("skipped", .array (view.skipped.map SkippedClause.json))]

/-- Custom rules by host. -/
structure CustomView where
  rules : List (String × List CustomRuleView)
  skipped : List UnreadableRule
deriving DecidableEq, Repr

namespace CustomView

def empty : CustomView := ⟨[], []⟩

/-- Add what a rule says.  Clauses left over stay with the rule. -/
def add (view : CustomView) (rule : RemoteRule) : CustomView :=
  match rule.category? with
  | some (.custom key) =>
    match rule.reading with
    | (some decompiled, _) =>
      let shown := ⟨key, rule.action, decompiled.conditions, decompiled.skipped⟩
      let before := (view.rules.lookup decompiled.host).getD []
      { view with rules := insertMember decompiled.host (before ++ [shown]) view.rules }
    | (none, listed) => { view with skipped := view.skipped ++ listed }
  | _ => view

def ofRules (rules : List RemoteRule) : CustomView := rules.foldl add empty

def json (view : CustomView) : Value :=
  .object [("rules", Json.mapped (fun rules => .array (rules.map CustomRuleView.json)) view.rules),
    ("skipped", .array (view.skipped.map UnreadableRule.json))]

end CustomView

end EdgePolicy
