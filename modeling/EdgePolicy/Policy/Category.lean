import EdgePolicy.Condition.Basic
import EdgePolicy.Zone.Rule

/-
Policy categories and the tags that identify their rules.

A category owns at most one rule for each domain.  The rule carries the tag `<label>_<domain>`,
except for the zone-wide DDoS override, whose tag is fixed.  `parseTag?` reads a tag back by trying
the labels in a fixed order.
-/

set_option autoImplicit false
set_option relaxedAutoImplicit false

namespace EdgePolicy

open Json (Document Value)

/-- The field a custom rule is keyed on. -/
inductive CustomKey where
  | header
  | fullUri
  | userAgent
deriving DecidableEq, Repr, Inhabited

namespace CustomKey

def word : CustomKey → String
  | header => "header"
  | fullUri => "full_uri"
  | userAgent => "user_agent"

def all : List CustomKey := [userAgent, header, fullUri]

def ofField? : Field → Option CustomKey
  | .header => some header
  | .fullUri => some fullUri
  | .generic path => if path = "user_agent" then some userAgent else none
  | _ => none

def json (key : CustomKey) : Value := .string key.word

def ofJson? (document : Document) : Option CustomKey :=
  document.variant?.bind fun s => all.find? fun key => key.word = s

end CustomKey

inductive Category where
  | blacklist
  | whitelist
  | country
  | knownBot
  | verifiedBot
  | custom (key : CustomKey)
  | cache
  | ddosOverride
deriving DecidableEq, Repr, Inhabited

namespace Category

def overrideTag : String := "default_rule"

def label : Category → String
  | blacklist => "black_ip"
  | whitelist => "white_ip"
  | country => "country"
  | knownBot => "known_bot"
  | verifiedBot => "verified_bot"
  | custom key => key.word
  | cache => "cache"
  | ddosOverride => overrideTag

/-- The categories with a tag for each domain, in the order in which their labels are tried. -/
def labelled : List Category :=
  [blacklist, whitelist, country, knownBot, verifiedBot, cache, custom .header, custom .fullUri,
    custom .userAgent]

def tag (category : Category) (domain : String) : String :=
  match category with
  | ddosOverride => overrideTag
  | other => other.label ++ "_" ++ domain

def afterLabel? (category : Category) (tag : String) : Option String :=
  let start := category.label.toList ++ ['_']
  if start.isPrefixOf tag.toList then some (String.ofList (tag.toList.drop start.length)) else none

def ownsTag (category : Category) (tag : String) : Bool :=
  match category with
  | ddosOverride => tag == overrideTag
  | other => (other.afterLabel? tag).isSome

def parseTag? (tag : String) : Option (Category × String) :=
  if tag = overrideTag then some (ddosOverride, "")
  else labelled.findSome? fun category =>
    match category.afterLabel? tag with
    | some domain => if domain.isEmpty then none else some (category, domain)
    | none => none

def phase : Category → Phase
  | cache => .cache
  | ddosOverride => .ddos
  | _ => .firewall

def display : Category → String
  | custom key => "custom:" ++ key.word
  | other => other.label

def word? : Category → Option String
  | blacklist => some "blacklist_ip"
  | whitelist => some "whitelist_ip"
  | country => some "country"
  | knownBot => some "known_bot"
  | verifiedBot => some "verified_bot"
  | custom _ => none
  | cache => some "cache"
  | ddosOverride => some "ddos_override"

def worded : List Category :=
  [blacklist, whitelist, country, knownBot, verifiedBot, cache, ddosOverride]

/-- A category as JSON: a word, or an object that names the key of a custom one. -/
def json : Category → Value
  | custom key => .object [("custom", key.json)]
  | other => .string (other.word?.getD "")

def ofJson? : Document → Option Category
  | .object [(some "custom", key)] => (CustomKey.ofJson? key).map custom
  | document =>
    document.variant?.bind fun s => worded.find? fun category => category.word? = some s

end Category

end EdgePolicy
