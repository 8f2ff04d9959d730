import EdgePolicy.Journal.RunId
import EdgePolicy.Journal.Timestamp
import EdgePolicy.Policy.Category

/-
Outcomes of reconciliation, and the change records that tell them.

Every decision has an outcome, and so has every change record: the decision together with the run
that took it and the time.
-/

set_option autoImplicit false
set_option relaxedAutoImplicit false

namespace EdgePolicy

open Json (Document Value)

/-- What was decided for one tag. -/
inductive Outcome where
  | unchanged (ruleId : Option String)
  | created (ruleId : String) (position : Option Position)
  | patched (ruleId : String)
  | deleted (ruleId : String)
deriving DecidableEq, Repr, Inhabited

namespace Outcome

/-- A rule was created, patched or deleted. -/
def isMutation : Outcome → Bool
  | unchanged _ => false
  | _ => true

def label : Outcome → String
  | unchanged _ => "unchanged"
  | created _ _ => "created"
  | patched _ => "patched"
  | deleted _ => "deleted"

def members (outcome : Outcome) : List (String × Value) :=
  ("outcome", .string outcome.label) ::
    match outcome with
    | unchanged ruleId => Json.optionalMember "rule_id" Value.string ruleId
    | created ruleId position =>
      ("rule_id", .string ruleId) :: Json.optionalMember "position" Position.json position
    | patched ruleId => [("rule_id", .string ruleId)]
    | deleted ruleId => [("rule_id", .string ruleId)]

def json (outcome : Outcome) : Value := .object outcome.members

/-- Read an outcome.  Every member must be readable, whatever its name, and the word stands first
when there are no names. -/
def ofJson? (document : Document) : Option Outcome := do
  let _ ← document.value?
  let label ← (← document.record? ["outcome"] ["rule_id", "position"]).required? "outcome"
    Document.string?
  if label = "unchanged" then
    let fields ← document.record? ["outcome"] ["rule_id"]
    return unchanged (← fields.optional? "rule_id" Document.string?)
  else if label = "created" then
    let fields ← document.record? ["outcome", "rule_id"] ["position"]
    return created (← fields.required? "rule_id" Document.string?)
      (← fields.optional? "position" Position.ofJson?)
  else
    let fields ← document.record? ["outcome", "rule_id"] []
    let ruleId ← fields.required? "rule_id" Document.string?
    if label = "patched" then return patched ruleId
    else if label = "deleted" then return deleted ruleId
    else none

end Outcome

/-- A decision: what was done about one tag of one zone, and the expression its rule has after. -/
structure Decision where
  zoneId : String
  containerId : Option String
  category : Category
  domain : String
  outcome : Outcome
  expression : Option String
deriving DecidableEq, Repr, Inhabited

structure ChangeRecord where
  runId : RunId
  zoneId : String
  containerId : Option String
  category : Category
  domain : String
  tag : String
  outcome : Outcome
  expression : Option String
  timestamp : Timestamp
deriving DecidableEq, Repr, Inhabited

def Decision.record (decision : Decision) (runId : RunId) (timestamp : Timestamp) :
    ChangeRecord where
  runId := runId
  zoneId := decision.zoneId
  containerId := decision.containerId
  category := decision.category
  domain := decision.domain
  tag := decision.category.tag decision.domain
  outcome := decision.outcome
  expression := decision.expression
  timestamp := timestamp

namespace ChangeRecord

def json (record : ChangeRecord) : Value :=
  .object [("run_id", record.runId.json), ("zone_id", .string record.zoneId),
    ("container_id", .optionalString record.containerId), ("category", record.category.json),
    ("domain", .string record.domain), ("tag", .string record.tag),
    ("outcome", record.outcome.json), ("expression", .optionalString record.expression),
    ("timestamp", record.timestamp.json)]

def ofJson? (document : Document) : Option ChangeRecord := do
  let fields ← document.record? ["run_id", "zone_id", "container_id", "category", "domain", "tag",
    "outcome", "expression", "timestamp"] []
  return {
    runId := ← fields.required? "run_id" RunId.ofJson?
    zoneId := ← fields.required? "zone_id" Document.string?
    containerId := ← fields.optional? "container_id" Document.string?
    category := ← fields.required? "category" Category.ofJson?
    domain := ← fields.required? "domain" Document.string?
    tag := ← fields.required? "tag" Document.string?
    outcome := ← fields.required? "outcome" Outcome.ofJson?
    expression := ← fields.optional? "expression" Document.string?
    timestamp := ← fields.required? "timestamp" Timestamp.ofJson? }

end ChangeRecord

end EdgePolicy
