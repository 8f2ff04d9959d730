import EdgePolicy.Zone.Call

/-
A platform held in memory.

The store keeps zones, containers and ordered rules, and answers every call the way the platform
does.  Each call is logged; an operation that is marked as failing is logged and refused.  Every
identifier it hands out carries the next number of one count.
-/

set_option autoImplicit false
set_option relaxedAutoImplicit false

namespace EdgePolicy

/-- A container of a zone with its rules, in order of evaluation. -/
structure Container where
  zoneId : String
  summary : ContainerSummary
  rules : List RemoteRule
deriving Repr, Inhabited

def Container.snapshot (container : Container) : Snapshot where
  id := container.summary.id
  name := container.summary.name
  phase := container.summary.phase
  rules := container.rules

def Container.is (zoneId containerId : String) (container : Container) : Bool :=
  container.zoneId == zoneId && container.summary.id == containerId

/-- The state of a platform.  The count is the number of identifiers handed out so far. -/
structure Store where
  zones : List (String × String)
  containers : List Container
  calls : List Call
  issued : Nat
  failing : List Operation
  losesRace : Bool
deriving Repr, Inhabited

namespace Store

def empty : Store where
  zones := []
  containers := []
  calls := []
  issued := 0
  failing := []
  losesRace := false

/-- Register the name of a zone; the latest registration counts. -/
def addZone (store : Store) (zone zoneId : String) : Store :=
  { store with zones := (zone, zoneId) :: store.zones }

def provisioned (zoneId id : String) (phase : Phase) (kind : String) : Container where
  zoneId := zoneId
  summary := ⟨id, phase.containerName, phase.word, kind⟩
  rules := []

def addContainer (store : Store) (zoneId id : String) (phase : Phase) (kind : String) : Store :=
  { store with containers := store.containers ++ [provisioned zoneId id phase kind] }

def fail (store : Store) (operation : Operation) : Store :=
  { store with failing := operation :: store.failing }

/-- Let an operation succeed again. -/
def restore (store : Store) (operation : Operation) : Store :=
  { store with failing := store.failing.filter (· != operation) }

/-- Let the next creation of a container be reported as failed although it takes place. -/
def loseRace (store : Store) : Store := { store with losesRace := true }

def clearCalls (store : Store) : Store := { store with calls := [] }

/-- The number of logged calls that change a rule. -/
def ruleMutations (store : Store) : Nat :=
  store.calls.countP (·.operation.changesRule)

/-- The rules of the first container with an identifier, in whatever zone. -/
def rules (store : Store) (containerId : String) : List RemoteRule :=
  match store.containers.find? (·.summary.id == containerId) with
  | some container => container.rules
  | none => []

def ownContainers (store : Store) (zoneId : String) : List Container :=
  store.containers.filter fun container =>
    container.zoneId == zoneId && container.summary.kind == "zone"

def containerIds (store : Store) (zoneId : String) (phase : Phase) : List String :=
  ((store.ownContainers zoneId).filter (·.summary.phase == phase.word)).map (·.summary.id)

def container? (store : Store) (zoneId containerId : String) : Option Container :=
  store.containers.find? (Container.is zoneId containerId)

def withRules (store : Store) (zoneId containerId : String) (rules : List RemoteRule) : Store :=
  { store with
    containers := store.containers.modify
      (store.containers.findIdx (Container.is zoneId containerId))
      fun container => { container with rules } }

/-- The rule that a body describes, under an identifier. -/
def ruleOf (id : String) (body : RuleBody) : RemoteRule where
  id := id
  tag := body.tag
  expression := body.expression
  action := body.action
  enabled := body.enabled
  parameters := body.parameters
  logging := body.logging

/-- A rule after a patch: everything but the identifier is replaced, and the logging block is kept
when the body has none. -/
def patched (rule : RemoteRule) (body : RuleBody) : RemoteRule :=
  { ruleOf rule.id body with logging := body.logging.orElse fun _ => rule.logging }

/-- The index at which a position puts a new rule. -/
def index? (rules : List RemoteRule) : Option Position → Except String Nat
  | none => .ok rules.length
  | some (.before anchor) =>
    match rules.findIdx? (·.id == anchor) with
    | some index => .ok index
    | none => .error anchor
  | some (.after anchor) =>
    match rules.findIdx? (·.id == anchor) with
    | some index => .ok (index + 1)
    | none => .error anchor

def refusal (path : String) (status : Nat) (cause : RemoteCause) : Error :=
  .remote path (some status) cause

/-- The refusal of a call about a container that does not exist. -/
def noContainer (zoneId containerId : String) : Error :=
  refusal (Call.containerPath zoneId containerId) 404 .noContainer

/-- Append a rule to a container without a call. -/
def seedRule (store : Store) (zoneId containerId : String) (rule : RemoteRule) :
    Except Error Store :=
  match store.container? zoneId containerId with
  | some container => .ok (store.withRules zoneId containerId (container.rules ++ [rule]))
  | none => .error (noContainer zoneId containerId)

/-- The answer to a call of an operation that is not failing, and the state after it. -/
def perform : (call : Call) → Store → Except Error call.Reply × Store
  | .resolveZone zone, store =>
    match store.zones.lookup zone with
    | some zoneId => (.ok zoneId, store)
    | none => (.error (.zoneNotFound zone), store)
  | .listContainers zoneId, store =>
    (.ok ((store.containers.filter (·.zoneId == zoneId)).map (·.summary)), store)
  | .createContainer zoneId phase, store =>
    let id := s!"ruleset-{store.issued + 1}"
    let created := { store.addContainer zoneId id phase "zone" with issued := store.issued + 1 }
    if store.losesRace then
      (.error (refusal (Call.containersPath zoneId) 400 .lostRace),
        { created with losesRace := false })
    else (.ok (provisioned zoneId id phase "zone").summary, created)
  | .fetchContainer zoneId containerId, store =>
    match store.container? zoneId containerId with
    | some container => (.ok container.snapshot, store)
    | none => (.error (noContainer zoneId containerId), store)
  | .createRule zoneId containerId body, store =>
    let rule := ruleOf s!"rule-{store.issued + 1}" body
    let store := { store with issued := store.issued + 1 }
    match store.container? zoneId containerId with
    | none => (.error (noContainer zoneId containerId), store)
    | some container =>
      match index? container.rules body.position with
      | .error anchor =>
        (.error (refusal (Call.rulesPath zoneId containerId) 400 (.unknownAnchor anchor)), store)
      | .ok index =>
        (.ok rule, store.withRules zoneId containerId (container.rules.insertIdx index rule))
  | .patchRule zoneId containerId ruleId body, store =>
    match store.container? zoneId containerId with
    | none => (.error (noContainer zoneId containerId), store)
    | some container =>
      match container.rules.find? (·.id == ruleId) with
      | none => (.error (refusal (Call.rulePath zoneId containerId ruleId) 404 .noRule), store)
      | some rule =>
        let index := container.rules.findIdx (·.id == ruleId)
        (.ok (patched rule body),
          store.withRules zoneId containerId (container.rules.set index (patched rule body)))
  | .deleteRule zoneId containerId ruleId, store =>
    match store.container? zoneId containerId with
    | none => (.error (noContainer zoneId containerId), store)
    | some container =>
      let kept := container.rules.filter (·.id != ruleId)
      if kept.length = container.rules.length then
        (.error (refusal (Call.rulePath zoneId containerId ruleId) 404 .noRule), store)
      else (.ok (), store.withRules zoneId containerId kept)

def answer (call : Call) (store : Store) : Except Error call.Reply × Store :=
  let store := { store with calls := store.calls ++ [call] }
  if call.operation ∈ store.failing then
    (.error (refusal call.path 500 (.injected call.operation.word)), store)
  else perform call store

end Store

end EdgePolicy
