import EdgePolicy.Payload.Address
import EdgePolicy.Payload.Fault
import EdgePolicy.Policy.Settings

/-
Requests for a desired state.

Every request names the hosts it is about.  `validate` checks what the shape of a request does not
already ensure; it finds the first fault in a fixed order, hosts before contents.
-/

set_option autoImplicit false
set_option relaxedAutoImplicit false

namespace EdgePolicy

/-- A host inside a zone, both by name. -/
structure Subdomain where
  zone : String
  name : String
deriving DecidableEq, Repr, Inhabited

def Subdomain.validateAll (subdomains : List Subdomain) : Except PayloadFault Unit :=
  if subdomains.isEmpty then .error .noSubdomains
  else match subdomains.find? fun sub => sub.zone.isEmpty || sub.name.isEmpty with
    | some sub => .error (.emptySubdomain sub.zone sub.name)
    | none => .ok ()

/-- An update of a list of addresses. -/
structure AddressRequest where
  subdomains : List Subdomain
  addresses : List String
deriving DecidableEq, Repr, Inhabited

/-- Every entry is an address or an address block. -/
def AddressRequest.validate (request : AddressRequest) : Except PayloadFault Unit := do
  Subdomain.validateAll request.subdomains
  match request.addresses.find? fun entry => !Address.isEntry entry with
  | some entry => .error (.notAddress entry)
  | none => .ok ()

structure Country where
  code : String
  name : Option String
deriving DecidableEq, Repr, Inhabited

/-- Listed countries are blocked, or all others are. -/
inductive AccessMode where
  | block
  | allow
deriving DecidableEq, Repr, Inhabited

/-- An update of the listed countries. -/
structure CountryRequest where
  subdomains : List Subdomain
  countries : List Country
  mode : AccessMode
deriving DecidableEq, Repr, Inhabited

/-- Every country has a code that is not blank. -/
def CountryRequest.validate (request : CountryRequest) : Except PayloadFault Unit := do
  Subdomain.validateAll request.subdomains
  if request.countries.any fun country => Text.isBlankText country.code then
    .error .emptyCountry

/-- A rule for known bots, or for everything else. -/
structure KnownBotRule where
  value : Bool
  action : Action
deriving DecidableEq, Repr, Inhabited

/-- An update of the known-bot rule; without a rule it is removed. -/
structure KnownBotRequest where
  subdomains : List Subdomain
  rule : Option KnownBotRule
deriving DecidableEq, Repr, Inhabited

/-- Only the hosts need a check. -/
def KnownBotRequest.validate (request : KnownBotRequest) : Except PayloadFault Unit :=
  Subdomain.validateAll request.subdomains

structure VerifiedBotRule where
  operator : Operator
  categories : List String
  action : Action
deriving DecidableEq, Repr, Inhabited

def Operator.comparesCategories : Operator → Bool
  | eq | ne | within | notWithin => true
  | _ => false

/-- An update of the verified-bot rule; without a rule it is removed. -/
structure VerifiedBotRequest where
  subdomains : List Subdomain
  rule : Option VerifiedBotRule
deriving DecidableEq, Repr, Inhabited

/-- The operator of the rule compares bot categories. -/
def VerifiedBotRequest.validate (request : VerifiedBotRequest) : Except PayloadFault Unit := do
  Subdomain.validateAll request.subdomains
  match request.rule with
  | some rule => if !rule.operator.comparesCategories then .error (.botOperator rule.operator)
  | none => pure ()

/-- A custom rule: an action over a flat list of conditions. -/
structure CustomRule where
  action : Action
  conditions : List Condition
deriving DecidableEq, Repr, Inhabited

/-- An update of the custom rules. -/
structure CustomRequest where
  subdomains : List Subdomain
  rules : List CustomRule
deriving DecidableEq, Repr, Inhabited

/-- Every rule has a condition. -/
def CustomRequest.validate (request : CustomRequest) : Except PayloadFault Unit := do
  Subdomain.validateAll request.subdomains
  match request.rules.findIdx? fun rule => rule.conditions.isEmpty with
  | some index => .error (.noConditions index)
  | none => .ok ()

/-- A time-to-live setting as requested; seconds may come with any mode. -/
structure TtlRequest where
  mode : String
  seconds : Option Nat
deriving DecidableEq, Repr, Inhabited

def TtlRequest.setting (request : TtlRequest) : TtlSetting := .of request.mode request.seconds

def TtlRequest.lacksSeconds (request : TtlRequest) : Bool :=
  request.mode == TtlSetting.overrideOrigin && request.seconds.isNone

structure CacheSettings where
  cache : Bool
  browser : TtlRequest
  edge : TtlRequest
  conditions : List Condition
deriving DecidableEq, Repr, Inhabited

/-- An update of the cache rule of one host. -/
structure CacheRequest where
  name : String
  zone : String
  settings : CacheSettings
deriving DecidableEq, Repr, Inhabited

/-- There are a host and a zone, and settings that need seconds have them while caching is on. -/
def CacheRequest.validate (request : CacheRequest) : Except PayloadFault Unit :=
  if request.name.isEmpty || request.zone.isEmpty then .error .cacheTarget
  else if !request.settings.cache then .ok ()
  else match [request.settings.browser, request.settings.edge].find? (·.lacksSeconds) with
    | some ttl => .error (.missingSeconds ttl.mode)
    | none => .ok ()

/-- An update of the sensitivity of a zone. -/
structure DdosRequest where
  zone : String
  level : String
deriving DecidableEq, Repr, Inhabited

/-- The zone is not blank. -/
def DdosRequest.validate (request : DdosRequest) : Except PayloadFault Unit :=
  if Text.isBlankText request.zone then .error .noZone else .ok ()

/-- The removal of hosts. -/
structure TeardownRequest where
  subdomains : List Subdomain
deriving DecidableEq, Repr, Inhabited

end EdgePolicy
