import EdgePolicy.Condition.Json
import EdgePolicy.Payload.Basic

/-
Requests as JSON.

Some members have several spellings, and some are read loosely: a truth value may be written as a
string or a number, and seconds as a string.  Requests are always written in one form.
-/

set_option autoImplicit false
set_option relaxedAutoImplicit false

namespace EdgePolicy

open Json (Document Value)

namespace Subdomain

def json (sub : Subdomain) : Value :=
  .object [("zone", .string sub.zone), ("name", .string sub.name)]

def ofJson? (document : Document) : Option Subdomain := do
  let fields ← document.record? ["zone", "name"] []
  return {
    zone := ← fields.required? "zone" Document.string?
    name := ← fields.required? "name" Document.string? }

def listMember (subdomains : List Subdomain) : String × Value :=
  ("subdomains", .array (subdomains.map json))

def listOf? (fields : Json.Fields) : Option (List Subdomain) :=
  fields.required? "subdomains" (Document.list? ofJson?)

end Subdomain

def AddressRequest.json (request : AddressRequest) : Value :=
  .object [Subdomain.listMember request.subdomains, ("ipList", .strings request.addresses)]

/-- Read a list of addresses, under any one of its names. -/
def AddressRequest.ofJson? (document : Document) : Option AddressRequest := do
  let fields ← document.record? ["subdomains"] ["ipList"]
  return {
    subdomains := ← Subdomain.listOf? fields
    addresses := ← fields.withDefault? ["ipList", "blackIpList", "whiteIpList"] []
      Document.strings? }

def Country.json (country : Country) : Value :=
  .object (("code", .string country.code) :: Json.optionalMember "name" Value.string country.name)

def Country.ofJson? (document : Document) : Option Country := do
  let fields ← document.record? ["code"] ["name"]
  return {
    code := ← fields.required? "code" Document.string?
    name := ← fields.optional? "name" Document.string? }

def AccessMode.json : AccessMode → Value
  | block => .string "block"
  | allow => .string "allow"

/-- Read an access mode: every word but `block` allows. -/
def AccessMode.ofJson? (document : Document) : Option AccessMode :=
  document.variant?.map fun s => if s = "block" then block else allow

def CountryRequest.json (request : CountryRequest) : Value :=
  .object [Subdomain.listMember request.subdomains,
    ("countryList", .array (request.countries.map Country.json)),
    ("countryAccessMode", request.mode.json)]

def CountryRequest.ofJson? (document : Document) : Option CountryRequest := do
  let fields ← document.record? ["subdomains"] ["countryList", "countryAccessMode"]
  return {
    subdomains := ← Subdomain.listOf? fields
    countries := ← fields.withDefault? ["countryList"] [] (Document.list? Country.ofJson?)
    mode := ← fields.withDefault? ["countryAccessMode"] .block AccessMode.ofJson? }

def Json.orNull {α : Type} (json : α → Value) : Option α → Value
  | some value => json value
  | none => .null

def KnownBotRule.json (rule : KnownBotRule) : Value :=
  .object [("value", .bool rule.value), ("action", rule.action.json)]

def KnownBotRule.ofJson? (document : Document) : Option KnownBotRule := do
  let fields ← document.record? ["value", "action"] []
  return {
    value := ← fields.required? "value" Document.bool?
    action := ← fields.required? "action" Action.ofJson? }

def KnownBotRequest.json (request : KnownBotRequest) : Value :=
  .object [Subdomain.listMember request.subdomains,
    ("knownBotRule", Json.orNull KnownBotRule.json request.rule)]

def KnownBotRequest.ofJson? (document : Document) : Option KnownBotRequest := do
  let fields ← document.record? ["subdomains"] ["knownBotRule"]
  return {
    subdomains := ← Subdomain.listOf? fields
    rule := ← fields.optional? "knownBotRule" KnownBotRule.ofJson? }

def VerifiedBotRule.json (rule : VerifiedBotRule) : Value :=
  .object [("type", rule.operator.json), ("value", .strings rule.categories),
    ("action", rule.action.json)]

def VerifiedBotRule.ofJson? (document : Document) : Option VerifiedBotRule := do
  let fields ← document.record? ["type", "value", "action"] []
  return {
    operator := ← fields.required? "type" Operator.ofJson?
    categories := ← fields.withDefault? ["value"] [] Document.strings?
    action := ← fields.required? "action" Action.ofJson? }

def VerifiedBotRequest.json (request : VerifiedBotRequest) : Value :=
  .object [Subdomain.listMember request.subdomains,
    ("verifiedBotRule", Json.orNull VerifiedBotRule.json request.rule)]

def VerifiedBotRequest.ofJson? (document : Document) : Option VerifiedBotRequest := do
  let fields ← document.record? ["subdomains"] ["verifiedBotRule"]
  return {
    subdomains := ← Subdomain.listOf? fields
    rule := ← fields.optional? "verifiedBotRule" VerifiedBotRule.ofJson? }

def CustomRule.json (rule : CustomRule) : Value :=
  .object [("action", rule.action.json),
    ("conditions", .array (rule.conditions.map Condition.json))]

def CustomRule.ofJson? (document : Document) : Option CustomRule := do
  let fields ← document.record? ["action"] ["conditions"]
  return {
    action := ← fields.required? "action" Action.ofJson?
    conditions := ← fields.withDefault? ["conditions"] [] (Document.list? Condition.ofJson?) }

def CustomRequest.json (request : CustomRequest) : Value :=
  .object [Subdomain.listMember request.subdomains,
    ("customRuleList", .array (request.rules.map CustomRule.json))]

def CustomRequest.ofJson? (document : Document) : Option CustomRequest := do
  let fields ← document.record? ["subdomains"] ["customRuleList"]
  return {
    subdomains := ← Subdomain.listOf? fields
    rules := ← fields.withDefault? ["customRuleList"] [] (Document.list? CustomRule.ofJson?) }

/-- Read a truth value loosely: `true` as a string, and every number but zero, are true. -/
def Json.looseBool? (document : Document) : Option Bool :=
  match document with
  | .bool b => some b
  | .string s => s.map (· == "true")
  | document => (document.natural? Text.maxWord64).map (· != 0)

/-- Read seconds loosely: `null` and a blank string are absent, and a string is trimmed. -/
def Json.looseSeconds? (document : Document) : Option (Option Nat) :=
  match document with
  | .null => some none
  | .string none => none
  | .string (some s) =>
    if Text.isBlankText s then some none
    else (Text.natural? Text.maxWord64 (Text.trim s)).map some
  | document => (document.natural? Text.maxWord64).map some

def TtlRequest.json (request : TtlRequest) : Value :=
  .object [("mode", .string request.mode), ("default", Json.orNull Value.natural request.seconds)]

/-- Read a requested time-to-live setting. -/
def TtlRequest.ofJson? (document : Document) : Option TtlRequest := do
  let fields ← document.record? ["mode"] ["default"]
  return {
    mode := ← fields.required? "mode" Document.string?
    seconds := ← fields.withDefault? ["default"] none Json.looseSeconds? }

def CacheSettings.json (settings : CacheSettings) : Value :=
  .object [("cache", .bool settings.cache), ("browser_ttl", settings.browser.json),
    ("edge_ttl", settings.edge.json),
    ("conditions", .array (settings.conditions.map Condition.json))]

def CacheSettings.ofJson? (document : Document) : Option CacheSettings := do
  let fields ← document.record? ["cache", "browser_ttl", "edge_ttl"] ["conditions"]
  return {
    cache := ← fields.required? "cache" Json.looseBool?
    browser := ← fields.required? "browser_ttl" TtlRequest.ofJson?
    edge := ← fields.required? "edge_ttl" TtlRequest.ofJson?
    conditions := ← fields.withDefault? ["conditions"] [] (Document.list? Condition.ofJson?) }

def CacheRequest.json (request : CacheRequest) : Value :=
  .object [("name", .string request.name), ("zone", .string request.zone),
    ("cdnCache", request.settings.json)]

def CacheRequest.ofJson? (document : Document) : Option CacheRequest := do
  let fields ← document.record? ["name", "zone", "cdnCache"] []
  return {
    name := ← fields.required? "name" Document.string?
    zone := ← fields.required? "zone" Document.string?
    settings := ← fields.required? "cdnCache" CacheSettings.ofJson? }

def DdosRequest.json (request : DdosRequest) : Value :=
  .object [("zone", .string request.zone), ("sensitivityLevel", .string request.level)]

def DdosRequest.ofJson? (document : Document) : Option DdosRequest := do
  let fields ← document.record? ["zone", "sensitivityLevel"] []
  return {
    zone := ← fields.required? "zone" Document.string?
    level := ← fields.required? "sensitivityLevel" Document.string? }

def TeardownRequest.json (request : TeardownRequest) : Value :=
  .object [Subdomain.listMember request.subdomains]

def TeardownRequest.ofJson? (document : Document) : Option TeardownRequest := do
  let fields ← document.record? ["subdomains"] []
  return { subdomains := ← Subdomain.listOf? fields }

end EdgePolicy
