import EdgePolicy.Error

/-
Calls to the platform.

There are seven calls.  The type of a reply depends on the call, so an answer cannot be mistaken for
the answer to another call.
-/

set_option autoImplicit false
set_option relaxedAutoImplicit false

namespace EdgePolicy

inductive Operation where
  | resolveZone
  | listContainers
  | createContainer
  | fetchContainer
  | createRule
  | patchRule
  | deleteRule
deriving DecidableEq, Repr, Inhabited

namespace Operation

def word : Operation → String
  | resolveZone => "resolve_zone"
  | listContainers => "list_containers"
  | createContainer => "create_container"
  | fetchContainer => "get_rule_detail"
  | createRule => "create_rule"
  | patchRule => "patch_rule"
  | deleteRule => "delete_rule"

def all : List Operation :=
  [resolveZone, listContainers, createContainer, fetchContainer, createRule, patchRule, deleteRule]

def ofWord? (s : String) : Option Operation :=
  all.find? fun operation => operation.word = s

def changesRule : Operation → Bool
  | createRule | patchRule | deleteRule => true
  | _ => false

end Operation

inductive Call where
  | resolveZone (zone : String)
  | listContainers (zoneId : String)
  | createContainer (zoneId : String) (phase : Phase)
  | fetchContainer (zoneId containerId : String)
  | createRule (zoneId containerId : String) (body : RuleBody)
  | patchRule (zoneId containerId ruleId : String) (body : RuleBody)
  | deleteRule (zoneId containerId ruleId : String)
deriving Repr, Inhabited

namespace Call

abbrev Reply : Call → Type
  | resolveZone _ => String
  | listContainers _ => List ContainerSummary
  | createContainer _ _ => ContainerSummary
  | fetchContainer _ _ => Snapshot
  | createRule _ _ _ => RemoteRule
  | patchRule _ _ _ _ => RemoteRule
  | deleteRule _ _ _ => Unit

def operation : Call → Operation
  | resolveZone _ => .resolveZone
  | listContainers _ => .listContainers
  | createContainer _ _ => .createContainer
  | fetchContainer _ _ => .fetchContainer
  | createRule _ _ _ => .createRule
  | patchRule _ _ _ _ => .patchRule
  | deleteRule _ _ _ => .deleteRule

def containersPath (zoneId : String) : String := s!"/zones/{zoneId}/rulesets"

def containerPath (zoneId containerId : String) : String :=
  s!"{containersPath zoneId}/{containerId}"

def rulesPath (zoneId containerId : String) : String :=
  s!"{containerPath zoneId containerId}/rules"

def rulePath (zoneId containerId ruleId : String) : String :=
  s!"{rulesPath zoneId containerId}/{ruleId}"

def path : Call → String
  | resolveZone _ => "/zones"
  | listContainers zoneId => containersPath zoneId
  | createContainer zoneId _ => containersPath zoneId
  | fetchContainer zoneId containerId => containerPath zoneId containerId
  | createRule zoneId containerId _ => rulesPath zoneId containerId
  | patchRule zoneId containerId ruleId _ => rulePath zoneId containerId ruleId
  | deleteRule zoneId containerId ruleId => rulePath zoneId containerId ruleId

end Call

end EdgePolicy
