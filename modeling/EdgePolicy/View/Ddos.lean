import EdgePolicy.Policy.Settings
import EdgePolicy.View.Reading

/-
The sensitivity of zones, read back from the rules of their DDoS containers.
-/

set_option autoImplicit false
set_option relaxedAutoImplicit false

namespace EdgePolicy

open Json (Value)

/-- The sensitivity of each zone. -/
structure DdosView where
  zones : List (String × Sensitivity)
deriving DecidableEq, Repr

namespace DdosView

/-- The sensitivity that the rules of a zone set; without an override it is the default. -/
def sensitivity (rules : List RemoteRule) : Sensitivity :=
  match rules.find? (·.tag == Category.overrideTag) with
  | some rule => .ofParameters rule.parameters
  | none => .default

def json (view : DdosView) : Value :=
  Json.mapped (fun sensitivity => .string sensitivity.level) view.zones

end DdosView

end EdgePolicy
