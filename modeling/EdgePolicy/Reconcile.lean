import EdgePolicy.Policy.Rule
import EdgePolicy.Zone.Placement
import EdgePolicy.Zone.Procedure

/-
Reconciling one tagged rule with its desired state.

A rule that should exist is created, patched, or left alone when it already has its body; a rule
that should not exist is deleted if it is there.  At most one call changes a rule, and the decision
is recorded after it.
-/

set_option autoImplicit false
set_option relaxedAutoImplicit false

namespace EdgePolicy

/-- The rule with a tag, if there is one; two are refused. -/
def Snapshot.tagged? (snapshot : Snapshot) (tag : String) : Except Error (Option RemoteRule) :=
  match snapshot.rules.filter (·.tag == tag) with
  | [] => .ok none
  | [rule] => .ok (some rule)
  | rules => .error (.duplicateTag snapshot.id tag rules.length)

def DesiredBody.request (body : DesiredBody) (tag : String) (position : Option Position) :
    RuleBody where
  tag := tag
  action := body.action
  expression := body.expression
  enabled := body.enabled
  parameters := body.parameters
  logging := body.logging
  position := position

def DesiredBody.acceptsParameters (body : DesiredBody) (held : Option Json.Value) : Bool :=
  match body.parameters, held with
  | none, _ => true
  | some want, some held => held.covers want
  | some _, none => false

/-- A rule already has a desired body.  A logging block that is not desired is left alone, and so
are parameters that the body does not set. -/
def DesiredBody.matches (body : DesiredBody) (rule : RemoteRule) : Bool :=
  rule.expression == body.expression && rule.action == body.action
    && rule.enabled == body.enabled && body.acceptsParameters rule.parameters
    && (body.logging.isNone || rule.logging == body.logging)

namespace DesiredRule

def decision (desired : DesiredRule) (zoneId : String) (containerId : Option String)
    (outcome : Outcome) : Decision where
  zoneId := zoneId
  containerId := containerId
  category := desired.category
  domain := desired.domain
  outcome := outcome
  expression := desired.body.map (·.expression)

/-- The container that holds the rule.  Only a rule that must exist is worth a new container. -/
def locate (desired : DesiredRule) (zoneId : String) : Procedure (Option String) :=
  match desired.body with
  | some _ => do return some (← Procedure.ensureContainer zoneId desired.category.phase)
  | none => do return (← Procedure.findContainer zoneId desired.category.phase).map (·.id)

def settle (desired : DesiredRule) (zoneId containerId : String) (snapshot : Snapshot) :
    Procedure Outcome := do
  match ← Procedure.lift (snapshot.tagged? desired.tag), desired.body with
  | none, none => return .unchanged none
  | none, some body =>
    let position := desired.category.position? snapshot
    let created ← Procedure.request
      (.createRule zoneId containerId (body.request desired.tag position))
    return .created created.id position
  | some rule, some body =>
    if body.matches rule then return .unchanged (some rule.id)
    let _ ← Procedure.request
      (.patchRule zoneId containerId rule.id (body.request desired.tag none))
    return .patched rule.id
  | some rule, none =>
    Procedure.request (.deleteRule zoneId containerId rule.id)
    return .deleted rule.id

def reconcile (desired : DesiredRule) (zoneId : String) : Procedure Outcome := do
  match ← desired.locate zoneId with
  | none =>
    Procedure.record (desired.decision zoneId none (.unchanged none))
    return .unchanged none
  | some containerId =>
    let snapshot ← Procedure.request (.fetchContainer zoneId containerId)
    let outcome ← desired.settle zoneId containerId snapshot
    Procedure.record (desired.decision zoneId (some containerId) outcome)
    return outcome

/-- Bring rules to their desired states in order, up to the first failure. -/
def reconcileAll (zoneId : String) : List DesiredRule → Procedure (List Outcome)
  | [] => return []
  | desired :: rest => do
    let outcome ← desired.reconcile zoneId
    return outcome :: (← reconcileAll zoneId rest)

end DesiredRule

end EdgePolicy
