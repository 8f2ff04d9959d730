import EdgePolicy.Payload.Json
import EdgePolicy.View.Reading

/-
The address and country lists of hosts, read back from rules.

The entries are sorted by host, and of two rules for one host the later one counts.
-/

set_option autoImplicit false
set_option relaxedAutoImplicit false

namespace EdgePolicy

open Json (Value insertMember)

/-- The listed countries of a host. -/
structure CountryView where
  mode : AccessMode
  codes : List String
deriving DecidableEq, Repr

def CountryView.json (view : CountryView) : Value :=
  .object [("accessMode", view.mode.json), ("codes", .strings view.codes)]

/-- Addresses and countries by host. -/
structure WafView where
  blacklist : List (String × List String)
  whitelist : List (String × List String)
  countries : List (String × CountryView)
  skipped : List UnreadableRule
deriving DecidableEq, Repr

namespace WafView

def empty : WafView := ⟨[], [], [], []⟩

def skip (view : WafView) (listed : List UnreadableRule) : WafView :=
  { view with skipped := view.skipped ++ listed }

/-- The country list a condition shows: only a negated set allows. -/
def countryOf (condition : Condition) : CountryView :=
  ⟨if condition.operator = .notWithin then .allow else .block, condition.operand.items⟩

def add (view : WafView) (rule : RemoteRule) : WafView :=
  match rule.category? with
  | some .blacklist =>
    match rule.readingOn .sourceAddress with
    | (some (host, condition), listed) =>
      { view.skip listed with
        blacklist := insertMember host condition.operand.items view.blacklist }
    | (none, listed) => view.skip listed
  | some .whitelist =>
    match rule.readingOn .sourceAddress with
    | (some (host, condition), listed) =>
      { view.skip listed with
        whitelist := insertMember host condition.operand.items view.whitelist }
    | (none, listed) => view.skip listed
  | some .country =>
    match rule.readingOn .sourceCountry with
    | (some (host, condition), listed) =>
      { view.skip listed with
        countries := insertMember host (countryOf condition) view.countries }
    | (none, listed) => view.skip listed
  | _ => view

def ofRules (rules : List RemoteRule) : WafView := rules.foldl add empty

def json (view : WafView) : Value :=
  .object [("blackIpList", Json.mapped Value.strings view.blacklist),
    ("whiteIpList", Json.mapped Value.strings view.whitelist),
    ("countryList", Json.mapped CountryView.json view.countries),
    ("skipped", .array (view.skipped.map UnreadableRule.json))]

end WafView

end EdgePolicy
