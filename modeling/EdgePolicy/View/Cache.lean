import EdgePolicy.Policy.Settings
import EdgePolicy.View.Reading

/-
The cache settings of hosts, read back from rules.

The entries are sorted by host, and of two rules for one host the later one counts.
-/

set_option autoImplicit false
set_option relaxedAutoImplicit false

namespace EdgePolicy

open Json (Value insertMember)

/-- The cache settings of a host, with the clauses left over. -/
structure CacheView where
  parameters : CacheParameters
  conditions : List Condition
  skipped : List SkippedClause
deriving DecidableEq, Repr

def CacheView.json (view : CacheView) : Value :=
  .object (view.parameters.members TtlSetting.json
    ++ [("conditions", .array (view.conditions.map Condition.json)),
      ("skipped", .array (view.skipped.map SkippedClause.json))])

structure CacheSettingsView where
  domains : List (String × CacheView)
  skipped : List UnreadableRule
deriving DecidableEq, Repr

namespace CacheSettingsView

def empty : CacheSettingsView := ⟨[], []⟩

def parameters? (rule : RemoteRule) : Option CacheParameters :=
  CacheParameters.ofJson? (rule.parameters.getD .null).document

/-- Add what a rule says.  Clauses left over stay with the rule. -/
def add (view : CacheSettingsView) (rule : RemoteRule) : CacheSettingsView :=
  match rule.category? with
  | some .cache =>
    match parameters? rule, rule.reading with
    | none, _ => { view with skipped := view.skipped ++ [.of rule .parameters] }
    | some parameters, (some decompiled, _) =>
      let shown := ⟨parameters, decompiled.conditions, decompiled.skipped⟩
      { view with domains := insertMember decompiled.host shown view.domains }
    | some _, (none, listed) => { view with skipped := view.skipped ++ listed }
  | _ => view

def ofRules (rules : List RemoteRule) : CacheSettingsView := rules.foldl add empty

def json (view : CacheSettingsView) : Value :=
  .object [("domains", Json.mapped CacheView.json view.domains),
    ("skipped", .array (view.skipped.map UnreadableRule.json))]

end CacheSettingsView

end EdgePolicy
