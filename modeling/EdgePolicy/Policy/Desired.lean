import EdgePolicy.Error
import EdgePolicy.Payload.Basic
import EdgePolicy.Policy.Rule
import EdgePolicy.Text.Uppercase

/-
The desired rules of one host, built from the contents of requests.

Each builder gives the desired state of every rule it is about, those that must be removed
included.
-/

set_option autoImplicit false
set_option relaxedAutoImplicit false

namespace EdgePolicy

namespace Group

def single (condition : Condition) : List Group := [⟨[condition], by simp⟩]

/-- The groups that match listed addresses; blank entries do not count. -/
def ofAddresses (addresses : List String) : List Group :=
  match (addresses.map Text.trim).filter (!·.isEmpty) with
  | [] => []
  | listed => single (.of .sourceAddress .within (.many listed))

/-- The groups that match blocked countries: the listed ones, or all others. -/
def ofCountries (countries : List Country) (mode : AccessMode) : List Group :=
  match countries.map fun country => Text.upper (Text.trim country.code) with
  | [] => []
  | codes =>
    single (.of .sourceCountry (match mode with | .block => .within | .allow => .notWithin)
      (.many codes))

end Group

namespace DesiredRule

/-- Block listed addresses; an empty list removes the rule. -/
def blacklist (domain : String) (addresses : List String) : Except ConditionFault DesiredRule :=
  PolicyRule.desired ⟨.blacklist, domain, .block, Group.ofAddresses addresses, none⟩

/-- Let listed addresses skip the managed firewall, with logging on. -/
def whitelist (domain : String) (addresses : List String) : Except ConditionFault DesiredRule := do
  let rule ←
    PolicyRule.desired ⟨.whitelist, domain, .skip, Group.ofAddresses addresses, some skipParameters⟩
  return rule.withLogging ⟨true⟩

def country (domain : String) (countries : List Country) (mode : AccessMode) :
    Except ConditionFault DesiredRule :=
  PolicyRule.desired ⟨.country, domain, .block, Group.ofCountries countries mode, none⟩

def knownBot (domain : String) : Option KnownBotRule → Except ConditionFault DesiredRule
  | none => .ok (absent .knownBot domain)
  | some rule =>
    PolicyRule.desired ⟨.knownBot, domain, rule.action,
      Group.single (.of .knownBot .eq (.flag rule.value)), rule.action.defaultParameters⟩

/-- What bot categories are compared with: a set, or for an equality the first category. -/
def categoryOperand (operator : Operator) (first : String) (categories : List String) : Operand :=
  match operator with
  | .eq | .ne => .one first
  | _ => .many categories

/-- Categories of verified bots; without a rule or without categories it is removed. -/
def verifiedBot (domain : String) : Option VerifiedBotRule → Except ConditionFault DesiredRule
  | none => .ok (absent .verifiedBot domain)
  | some rule =>
    match rule.categories with
    | [] => .ok (absent .verifiedBot domain)
    | first :: _ =>
      PolicyRule.desired ⟨.verifiedBot, domain, rule.action,
        Group.single (.of .verifiedBotCategory rule.operator
          (categoryOperand rule.operator first rule.categories)),
        rule.action.defaultParameters⟩

/-- The key of the custom rule at an index: the field of its first condition. -/
def customKey (index : Nat) (rule : CustomRule) : Except PayloadFault CustomKey :=
  match rule.conditions.head? with
  | none => .error (.noConditions index)
  | some first =>
    match CustomKey.ofField? first.field with
    | none => .error (.customField index first.field)
    | some key => .ok key

/-- Custom rules from an index on, given the keys before it; every key without a rule is removed. -/
def customFrom (domain : String) :
    Nat → List CustomKey → List CustomRule → Except Error (List DesiredRule)
  | _, seen, [] =>
    .ok ((CustomKey.all.filter (· ∉ seen)).map fun key => absent (.custom key) domain)
  | index, seen, rule :: rest => do
    let key ← (customKey index rule).mapError .payload
    if key ∈ seen then .error (.payload (.repeatedKey key.word))
    let desired ← (PolicyRule.desired ⟨.custom key, domain, rule.action,
      Group.partition rule.conditions, rule.action.defaultParameters⟩).mapError .condition
    return desired :: (← customFrom domain (index + 1) (key :: seen) rest)

def custom (domain : String) (rules : List CustomRule) : Except Error (List DesiredRule) :=
  customFrom domain 0 [] rules

/-- Cache settings; without conditions they cover the whole host. -/
def cache (domain : String) (settings : CacheSettings) : Except ConditionFault DesiredRule :=
  PolicyRule.desired ⟨.cache, domain, .setCacheSettings, Group.partition settings.conditions,
    some (CacheParameters.of settings.cache settings.browser.setting settings.edge.setting).free⟩

def ddos (zone level : String) : Except ConditionFault DesiredRule :=
  PolicyRule.desired
    ⟨.ddosOverride, zone, .execute, [], some (Sensitivity.ofLevel level).parameters⟩

/-- Everything a host owns outside custom and bot rules, removed. -/
def teardown (domain : String) : List DesiredRule :=
  [Category.blacklist, .whitelist, .country, .cache].map (absent · domain)

end DesiredRule

end EdgePolicy
