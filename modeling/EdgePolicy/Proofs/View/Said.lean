import EdgePolicy.Payload.Request
import EdgePolicy.View.Waf

/-
What requests say about the addresses and countries of a host.

A request either says which addresses or countries count for every host it names, or says nothing
about them; a removal says that none count.  What is said is one condition of the rule of a
category, or that there is no such rule.
-/

set_option autoImplicit false
set_option relaxedAutoImplicit false

namespace EdgePolicy

namespace Request

/-- The request names a host. -/
def names (host : String) (request : Request) : Bool :=
  request.targets.any (·.name == host)

/-- The blocked addresses. -/
def blocked? : Request → Option (List String)
  | blacklist request => some request.addresses
  | teardown _ => some []
  | _ => none

/-- The addresses that are let through. -/
def allowed? : Request → Option (List String)
  | whitelist request => some request.addresses
  | teardown _ => some []
  | _ => none

/-- The listed countries, their codes trimmed and in upper case. -/
def countries? : Request → Option CountryView
  | country request =>
    some ⟨request.mode, request.countries.map fun country => Text.upper (Text.trim country.code)⟩
  | teardown _ => some ⟨.block, []⟩
  | _ => none

end Request

/-- The last that some requests say about a host. -/
def lastSaid {α : Type} (said? : Request → Option α) (host : String) (requests : List Request) :
    Option α :=
  requests.reverse.findSome? fun request => if request.names host then said? request else none

def addressCondition? (addresses : List String) : Option Condition :=
  if addresses = [] then none else some (.of .sourceAddress .within (.many addresses))

def countryCondition? (view : CountryView) : Option Condition :=
  if view.codes = [] then none
  else some (.of .sourceCountry (match view.mode with | .block => .within | .allow => .notWithin)
    (.many view.codes))

/-- The categories that are shown. -/
def Category.InView : Category → Prop
  | .blacklist | .whitelist | .country => True
  | _ => False

/-- What a request says about a category, as the condition of its rule. -/
def Request.condition? (category : Category) (request : Request) : Option (Option Condition) :=
  match category with
  | .blacklist => request.blocked?.map addressCondition?
  | .whitelist => request.allowed?.map addressCondition?
  | .country => request.countries?.map countryCondition?
  | _ => none

end EdgePolicy
