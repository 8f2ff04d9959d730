import EdgePolicy.Policy.Action

/-
Rules and rule containers as the platform holds them.

A rule is identified by its tag, which travels in the `description` member.  The rules of a zone
stand in containers, one for each phase of evaluation.
-/

set_option autoImplicit false
set_option relaxedAutoImplicit false

namespace EdgePolicy

open Json (Document Value)

/-- The phase in which a container is evaluated. -/
inductive Phase where
  | firewall
  | cache
  | ddos
deriving DecidableEq, Repr, Inhabited

namespace Phase

def word : Phase → String
  | firewall => "http_request_firewall_custom"
  | cache => "http_request_cache_settings"
  | ddos => "ddos_l7"

def containerName : Phase → String
  | firewall => "firewall_custom"
  | cache => "cache_purge"
  | ddos => "ddos_l7"

def containerDescription : Phase → String
  | firewall => "Custom firewall Ruleset"
  | cache => "Cache settings Ruleset"
  | ddos => "DDoS L7 override Ruleset"

def ofWord? (s : String) : Option Phase :=
  [firewall, cache, ddos].find? fun phase => phase.word = s

theorem ofWord_word (phase : Phase) : ofWord? phase.word = some phase := by
  cases phase <;> rfl

def ofJson? (document : Document) : Option Phase :=
  document.variant?.bind ofWord?

end Phase

structure Logging where
  enabled : Bool
deriving DecidableEq, Repr, Inhabited

namespace Logging

def json (logging : Logging) : Value := .object [("enabled", .bool logging.enabled)]

def ofJson? (document : Document) : Option Logging := do
  let fields ← document.record? ["enabled"] []
  return { enabled := ← fields.required? "enabled" Document.bool? }

end Logging

/-- Where a new rule goes, relative to a rule of the container. -/
inductive Position where
  | before (ruleId : String)
  | after (ruleId : String)
deriving DecidableEq, Repr, Inhabited

namespace Position

def json : Position → Value
  | before ruleId => .object [("before", .string ruleId)]
  | after ruleId => .object [("after", .string ruleId)]

/-- Read a position: an object with exactly one member. -/
def ofJson? : Document → Option Position
  | .object [(some "before", ruleId)] => ruleId.string?.map before
  | .object [(some "after", ruleId)] => ruleId.string?.map after
  | _ => none

end Position

/-- A rule as it stands on the platform. -/
structure RemoteRule where
  id : String
  tag : String
  expression : String
  action : Action
  enabled : Bool
  parameters : Option Value
  logging : Option Logging
deriving Repr, Inhabited

namespace RemoteRule

def json (rule : RemoteRule) : Value :=
  .object <|
    [("id", .string rule.id), ("description", .string rule.tag),
      ("expression", .string rule.expression), ("action", rule.action.json),
      ("enabled", .bool rule.enabled)]
      ++ Json.optionalMember "action_parameters" Value.itself rule.parameters
      ++ Json.optionalMember "logging" Logging.json rule.logging

def ofJson? (document : Document) : Option RemoteRule := do
  let fields ← document.record? ["id", "description", "expression", "action"]
    ["enabled", "action_parameters", "logging"]
  return {
    id := ← fields.required? "id" Document.string?
    tag := ← fields.withDefault? ["description"] "" Document.string?
    expression := ← fields.withDefault? ["expression"] "" Document.string?
    action := ← fields.required? "action" Action.ofJson?
    enabled := ← fields.withDefault? ["enabled"] true Document.bool?
    parameters := ← fields.optional? "action_parameters" Document.value?
    logging := ← fields.optional? "logging" Logging.ofJson? }

end RemoteRule

/-- The body of a call that creates or patches a rule.  A position counts only on creation. -/
structure RuleBody where
  tag : String
  action : Action
  expression : String
  enabled : Bool
  parameters : Option Value
  logging : Option Logging
  position : Option Position
deriving Repr, Inhabited

def RuleBody.json (body : RuleBody) : Value :=
  .object <|
    [("description", .string body.tag), ("action", body.action.json),
      ("expression", .string body.expression), ("enabled", .bool body.enabled)]
      ++ Json.optionalMember "action_parameters" Value.itself body.parameters
      ++ Json.optionalMember "logging" Logging.json body.logging
      ++ Json.optionalMember "position" Position.json body.position

/-- A container as it is listed, without its rules. -/
structure ContainerSummary where
  id : String
  name : String
  phase : String
  kind : String
deriving DecidableEq, Repr, Inhabited

namespace ContainerSummary

def json (container : ContainerSummary) : Value :=
  .object [("id", .string container.id), ("name", .string container.name),
    ("phase", .string container.phase), ("kind", .string container.kind)]

def ofJson? (document : Document) : Option ContainerSummary := do
  let fields ← document.record? ["id"] ["name", "phase", "kind"]
  return {
    id := ← fields.required? "id" Document.string?
    name := ← fields.withDefault? ["name"] "" Document.string?
    phase := ← fields.withDefault? ["phase"] "" Document.string?
    kind := ← fields.withDefault? ["kind"] "" Document.string? }

/-- The container of a zone for a phase: managed containers share phases, so only a kind that is
empty or `zone` counts. -/
def serves (phase : Phase) (container : ContainerSummary) : Bool :=
  container.phase == phase.word && (container.kind == "" || container.kind == "zone")

/-- The first listed container that serves a phase. -/
def select? (containers : List ContainerSummary) (phase : Phase) : Option ContainerSummary :=
  containers.find? (serves phase)

end ContainerSummary

/-- A container with its rules, in order of evaluation. -/
structure Snapshot where
  id : String
  name : String
  phase : String
  rules : List RemoteRule
deriving Repr, Inhabited

namespace Snapshot

def json (snapshot : Snapshot) : Value :=
  .object [("id", .string snapshot.id), ("name", .string snapshot.name),
    ("phase", .string snapshot.phase), ("rules", .array (snapshot.rules.map RemoteRule.json))]

def ofJson? (document : Document) : Option Snapshot := do
  let fields ← document.record? ["id"] ["name", "phase", "rules"]
  return {
    id := ← fields.required? "id" Document.string?
    name := ← fields.withDefault? ["name"] "" Document.string?
    phase := ← fields.withDefault? ["phase"] "" Document.string?
    rules := ← fields.withDefault? ["rules"] [] (Document.list? RemoteRule.ofJson?) }

end Snapshot

end EdgePolicy
