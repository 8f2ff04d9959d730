import EdgePolicy.Payload.Json
import EdgePolicy.Policy.Desired

/-
Requests of every kind.

A request names hosts and says which rules it desires for each of them.  `plan` checks a request and
builds the desired rules of all its hosts, so whatever is wrong with a request shows before anything
is done.
-/

set_option autoImplicit false
set_option relaxedAutoImplicit false

namespace EdgePolicy

/-- A request for a desired state. -/
inductive Request where
  | blacklist (request : AddressRequest)
  | whitelist (request : AddressRequest)
  | country (request : CountryRequest)
  | knownBot (request : KnownBotRequest)
  | verifiedBot (request : VerifiedBotRequest)
  | custom (request : CustomRequest)
  | cache (request : CacheRequest)
  | ddos (request : DdosRequest)
  | teardown (request : TeardownRequest)
deriving DecidableEq, Repr

inductive Request.Kind where
  | blacklist
  | whitelist
  | country
  | knownBot
  | verifiedBot
  | custom
  | cache
  | ddos
  | teardown
deriving DecidableEq, Repr

namespace Request

def ofJson? (document : Json.Document) : Kind → Option Request
  | .blacklist => (AddressRequest.ofJson? document).map blacklist
  | .whitelist => (AddressRequest.ofJson? document).map whitelist
  | .country => (CountryRequest.ofJson? document).map country
  | .knownBot => (KnownBotRequest.ofJson? document).map knownBot
  | .verifiedBot => (VerifiedBotRequest.ofJson? document).map verifiedBot
  | .custom => (CustomRequest.ofJson? document).map custom
  | .cache => (CacheRequest.ofJson? document).map cache
  | .ddos => (DdosRequest.ofJson? document).map ddos
  | .teardown => (TeardownRequest.ofJson? document).map teardown

/-- Check a request; the removal of hosts needs no check. -/
def validate : Request → Except PayloadFault Unit
  | blacklist request => request.validate
  | whitelist request => request.validate
  | country request => request.validate
  | knownBot request => request.validate
  | verifiedBot request => request.validate
  | custom request => request.validate
  | cache request => request.validate
  | ddos request => request.validate
  | teardown _ => .ok ()

/-- The hosts of a request; a whole zone stands as a host of its own name. -/
def targets : Request → List Subdomain
  | blacklist request => request.subdomains
  | whitelist request => request.subdomains
  | country request => request.subdomains
  | knownBot request => request.subdomains
  | verifiedBot request => request.subdomains
  | custom request => request.subdomains
  | cache request => [⟨request.zone, request.name⟩]
  | ddos request => [⟨request.zone, request.zone⟩]
  | teardown request => request.subdomains

/-- One desired rule, with its fault as a failure. -/
def only (rule : Except ConditionFault DesiredRule) : Except Error (List DesiredRule) :=
  (rule.map fun desired => [desired]).mapError .condition

def desired (domain : String) : Request → Except Error (List DesiredRule)
  | blacklist request => only (DesiredRule.blacklist domain request.addresses)
  | whitelist request => only (DesiredRule.whitelist domain request.addresses)
  | country request => only (DesiredRule.country domain request.countries request.mode)
  | knownBot request => only (DesiredRule.knownBot domain request.rule)
  | verifiedBot request => only (DesiredRule.verifiedBot domain request.rule)
  | custom request => DesiredRule.custom domain request.rules
  | cache request => only (DesiredRule.cache domain request.settings)
  | ddos request => only (DesiredRule.ddos domain request.level)
  | teardown _ => .ok (DesiredRule.teardown domain)

/-- Check a request and build the desired rules of every host. -/
def plan (request : Request) : Except Error (List (Subdomain × List DesiredRule)) := do
  request.validate.mapError .payload
  request.targets.mapM fun target => do return (target, ← request.desired target.name)

end Request

end EdgePolicy
