import EdgePolicy.Payload.Request
import EdgePolicy.Reconcile

/-
Applying requests.

A request is planned as a whole, then its hosts are brought to their desired state one after the
other.  The first failure ends the run; hosts already done keep their changes.
-/

set_option autoImplicit false
set_option relaxedAutoImplicit false

namespace EdgePolicy

open Json (Value)

/-- What was done for one host: the outcome of each tag. -/
structure Report where
  zone : String
  zoneId : String
  domain : String
  outcomes : List (String × Outcome)
deriving DecidableEq, Repr, Inhabited

namespace Report

def mutations (report : Report) : Nat :=
  report.outcomes.countP (·.2.isMutation)

def outcomeJson (outcome : String × Outcome) : Value :=
  .object (("tag", .string outcome.1) :: outcome.2.members)

def members (report : Report) : List (String × Value) :=
  [("zone", .string report.zone), ("zone_id", .string report.zoneId),
    ("domain", .string report.domain), ("outcomes", .array (report.outcomes.map outcomeJson))]

def json (report : Report) : Value := .object report.members

end Report

/-- Bring the rules of one host to their desired states. -/
def Subdomain.converge (target : Subdomain) (rules : List DesiredRule) : Procedure Report := do
  let zoneId ← Procedure.request (.resolveZone target.zone)
  let outcomes ← DesiredRule.reconcileAll zoneId rules
  return ⟨target.zone, zoneId, target.name, (rules.map (·.tag)).zip outcomes⟩

/-- Bring hosts to their desired states in order, up to the first failure. -/
def Subdomain.convergeAll : List (Subdomain × List DesiredRule) → Procedure (List Report)
  | [] => return []
  | (target, rules) :: rest => do
    let report ← target.converge rules
    return report :: (← convergeAll rest)

def Request.apply (request : Request) : Procedure (List Report) := do
  Subdomain.convergeAll (← Procedure.lift request.plan)

end EdgePolicy
