import EdgePolicy.View.Bot
import EdgePolicy.View.Cache
import EdgePolicy.View.Custom
import EdgePolicy.View.Ddos
import EdgePolicy.View.Waf
import EdgePolicy.Zone.Procedure

/-
Views: the current policy read back from the rules of zones.

A view is a function of the rules in the containers of its phase, zone by zone.  Reading one makes
no call that changes anything.
-/

set_option autoImplicit false
set_option relaxedAutoImplicit false

namespace EdgePolicy

open Json (Value insertMember)

inductive View where
  | waf (view : WafView)
  | bot (view : BotView)
  | custom (view : CustomView)
  | cache (view : CacheSettingsView)
  | ddos (view : DdosView)
deriving DecidableEq, Repr

inductive View.Kind where
  | waf
  | bot
  | custom
  | cache
  | ddos
deriving DecidableEq, Repr

namespace View

def json : View → Value
  | waf view => view.json
  | bot view => view.json
  | custom view => view.json
  | cache view => view.json
  | ddos view => view.json

/-- The rules of a zone for a phase; a zone without a container has none. -/
def rulesOfZone (phase : Phase) (zone : String) : Procedure (List RemoteRule) := do
  let zoneId ← Procedure.request (.resolveZone zone)
  match ← Procedure.findContainer zoneId phase with
  | some container => Procedure.listRules zoneId container.id
  | none => return []

/-- The rules of zones for a phase, zone by zone. -/
def rulesOf (phase : Phase) : List String → Procedure (List RemoteRule)
  | [] => return []
  | zone :: rest => do
    let rules ← rulesOfZone phase zone
    return rules ++ (← rulesOf phase rest)

def readDdos (view : DdosView) : List String → Procedure DdosView
  | [] => return view
  | zone :: rest => do
    let sensitivity := DdosView.sensitivity (← rulesOfZone .ddos zone)
    readDdos ⟨insertMember zone sensitivity view.zones⟩ rest

def read (zones : List String) : Kind → Procedure View
  | .waf => do return waf (.ofRules (← rulesOf .firewall zones))
  | .bot => do return bot (.ofRules (← rulesOf .firewall zones))
  | .custom => do return custom (.ofRules (← rulesOf .firewall zones))
  | .cache => do return cache (.ofRules (← rulesOf .cache zones))
  | .ddos => do return ddos (← readDdos ⟨[]⟩ zones)

end View

end EdgePolicy
