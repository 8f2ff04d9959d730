import EdgePolicy.Policy.Action
import EdgePolicy.Text.Digits

/-
Parameters of rule actions.

A `skip` rule names the managed phase it skips, a cache rule its time-to-live settings, and the DDoS
override its sensitivity.  As parameters of a rule these are free JSON, so their members are sorted.
-/

set_option autoImplicit false
set_option relaxedAutoImplicit false

namespace EdgePolicy

open Json (Document Value)

def skipParameters : Value :=
  .record [("phases", .strings ["http_request_firewall_managed"]), ("ruleset", .string "current")]

def Action.defaultParameters : Action → Option Value
  | .skip => some skipParameters
  | _ => none

/-- A time-to-live setting: a mode and, for some modes, seconds. -/
structure TtlSetting where
  mode : String
  seconds : Option Nat
deriving DecidableEq, Repr, Inhabited

namespace TtlSetting

def overrideOrigin : String := "override_origin"

/-- A setting in which seconds stand only where the mode overrides the origin. -/
def of (mode : String) (seconds : Option Nat) : TtlSetting :=
  ⟨mode, if mode = overrideOrigin then seconds else none⟩

def members (setting : TtlSetting) : List (String × Value) :=
  ("mode", .string setting.mode) :: Json.optionalMember "default" Value.natural setting.seconds

def json (setting : TtlSetting) : Value := .object setting.members

def ofJson? (document : Document) : Option TtlSetting := do
  let fields ← document.record? ["mode"] ["default"]
  return {
    mode := ← fields.required? "mode" Document.string?
    seconds := ← fields.optional? "default" (Document.natural? Text.maxWord64) }

end TtlSetting

structure CacheParameters where
  cache : Bool
  browser : Option TtlSetting
  edge : Option TtlSetting
deriving DecidableEq, Repr, Inhabited

namespace CacheParameters

def of (cache : Bool) (browser edge : TtlSetting) : CacheParameters :=
  if cache then ⟨true, some browser, some edge⟩ else ⟨false, none, none⟩

/-- The members of cache parameters, with time-to-live settings written by `ttl`. -/
def members (ttl : TtlSetting → Value) (parameters : CacheParameters) : List (String × Value) :=
  ("cache", .bool parameters.cache) ::
    (Json.optionalMember "browser_ttl" ttl parameters.browser
      ++ Json.optionalMember "edge_ttl" ttl parameters.edge)

def json (parameters : CacheParameters) : Value :=
  .object (parameters.members TtlSetting.json)

def free (parameters : CacheParameters) : Value :=
  .record (parameters.members fun setting => .record setting.members)

def ofJson? (document : Document) : Option CacheParameters := do
  let fields ← document.record? ["cache"] ["browser_ttl", "edge_ttl"]
  return {
    cache := ← fields.required? "cache" Document.bool?
    browser := ← fields.optional? "browser_ttl" TtlSetting.ofJson?
    edge := ← fields.optional? "edge_ttl" TtlSetting.ofJson? }

end CacheParameters

/-- The sensitivity of the DDoS override. -/
inductive Sensitivity where
  | default
  | medium
  | low
deriving DecidableEq, Repr, Inhabited

namespace Sensitivity

def ofLevel (level : String) : Sensitivity :=
  if level = "2" then medium else if level = "1" then low else default

/-- The sensitivity of a platform name; an unknown name is the default. -/
def ofPlatform (name : String) : Sensitivity :=
  if name = "medium" then medium else if name = "low" then low else default

def level : Sensitivity → String
  | default => "3"
  | medium => "2"
  | low => "1"

def platformName : Sensitivity → String
  | default => "default"
  | medium => "medium"
  | low => "low"

def managedRuleset : String := "4d21379b4f9f4bb088e0729962c8b3cf"

def parameters (sensitivity : Sensitivity) : Value :=
  .record [("id", .string managedRuleset),
    ("overrides", .record [("sensitivity_level", .string sensitivity.platformName)])]

/-- The sensitivity that the parameters of an override name, the default when they name none. -/
def ofParameters (parameters : Option Value) : Sensitivity :=
  let named := do
    let overrides ← (← parameters).member? "overrides"
    (← overrides.member? "sensitivity_level").string?
  (named.map ofPlatform).getD default

theorem ofLevel_level (sensitivity : Sensitivity) : ofLevel sensitivity.level = sensitivity := by
  cases sensitivity <;> rfl

theorem ofPlatform_platformName (sensitivity : Sensitivity) :
    ofPlatform sensitivity.platformName = sensitivity := by
  cases sensitivity <;> rfl

end Sensitivity

end EdgePolicy
