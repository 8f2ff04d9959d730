import EdgePolicy.Proofs.Http.Address
import EdgePolicy.Proofs.Zone.Answers
import EdgePolicy.Proofs.Zone.Wire

/-
A server that puts a platform held in memory behind a link.

It takes the call from a request (`Server.read?`), lets the platform answer it, and puts the answer
into an envelope: a change of a rule is answered with the whole container, a zone with a list of at
most one zone, and a failure with its status.  A client of the server learns from every call what
the platform has answered (`Client.served_agree`), as long as what is asked for and what is held is
portable.
-/

set_option autoImplicit false
set_option relaxedAutoImplicit false

namespace EdgePolicy

open Json (Document Fields Value)

namespace Http

/-- Where a server takes calls: behind some segments. -/
structure Server where
  directory : List (List Char)
deriving Repr

namespace Server

/-- The zone that a query names, if its name needs no escapes. -/
def zone? (query : Option (List Char)) : Option String := do
  return String.ofList (← Text.expect? ['n', 'a', 'm', 'e', '='] (← query))

def phase? (body : Option Value) : Option Phase := do
  Phase.ofWord? (← (← (← body).member? "phase").string?)

def rule? (body : Option Value) : Option RuleBody := do
  RuleBody.ofJson? (← body).document

/-- The call that a request makes, by its method and the segments of its path. -/
def call? (message : Message) : Method → List String → Option Call
  | .get, ["zones"] => (zone? message.url.query).map .resolveZone
  | .get, ["zones", zoneId, "rulesets"] => some (.listContainers zoneId)
  | .post, ["zones", zoneId, "rulesets"] => (phase? message.body).map (.createContainer zoneId)
  | .get, ["zones", zoneId, "rulesets", containerId] => some (.fetchContainer zoneId containerId)
  | .post, ["zones", zoneId, "rulesets", containerId, "rules"] =>
    (rule? message.body).map (.createRule zoneId containerId)
  | .patch, ["zones", zoneId, "rulesets", containerId, "rules", ruleId] =>
    (rule? message.body).map (.patchRule zoneId containerId ruleId)
  | .delete, ["zones", zoneId, "rulesets", containerId, "rules", ruleId] =>
    some (.deleteRule zoneId containerId ruleId)
  | _, _ => none

/-- The call that a request to the server makes. -/
def read? (server : Server) (message : Message) : Option Call :=
  match message.url.path with
  | .segments segments =>
    if segments.take server.directory.length = server.directory then
      call? message message.method ((segments.drop server.directory.length).map String.ofList)
    else none
  | .plain _ => none

def envelope (result : Value) : Value :=
  .object [("success", .bool true), ("errors", .array []), ("messages", .array []),
    ("result", result)]

def refusal (status : Nat) (text : String) : Value :=
  .object [("success", .bool false),
    ("errors", .array [.object [("code", .natural status), ("message", .string text)]]),
    ("messages", .array []), ("result", .null)]

def success (result : Value) : Response := ⟨200, some (envelope result).compact⟩

def failure (status : Nat) (text : String) : Response := ⟨status, some (refusal status text).compact⟩

/-- The container of a zone with an identifier, with its rules. -/
def container (store : Store) (zoneId containerId : String) : Value :=
  match store.container? zoneId containerId with
  | some container => container.snapshot.json
  | none => .null

/-- The result of a call: what it is answered with, and the whole container for a change of a
rule. -/
def result : (call : Call) → call.Reply → Store → Value
  | .resolveZone zone, zoneId, _ =>
    .array [.object [("id", .string zoneId), ("name", .string zone)]]
  | .listContainers _, containers, _ => .array (containers.map ContainerSummary.json)
  | .createContainer _ _, container, _ => container.json
  | .fetchContainer _ _, snapshot, _ => snapshot.json
  | .createRule zoneId containerId _, _, after => container after zoneId containerId
  | .patchRule zoneId containerId _ _, _, after => container after zoneId containerId
  | .deleteRule _ _ _, _, _ => .null

def respond (call : Call) (answered : Except Error call.Reply × Store) : Response :=
  match answered.1 with
  | .ok reply => success (result call reply answered.2)
  | .error (.zoneNotFound _) => success (.array [])
  | .error (.remote _ (some status) cause) => failure status cause.message
  | .error fault => failure 500 fault.message

/-- Answer a request; one that makes no call is not found. -/
def serve (server : Server) (message : Message) : StateM Store Response := fun store =>
  match server.read? message with
  | some call => (respond call (Store.answer call store), (Store.answer call store).2)
  | none => (failure 404 "not found", store)

/-- A link to the server over which nothing is lost. -/
def link (server : Server) : Link (StateM Store) where
  send message := some <$> server.serve message
  pause _ := pure ()

end Server

namespace Client

def server (client : Client) : Server := ⟨client.directory⟩

/-- How a client answers calls over a link to its server. -/
def served (client : Client) : Session.Answers Store := fun call store =>
  (answer client.server.link client call).run store

end Client

end Http

namespace Call

/-- What a call carries beside its identifiers is read back from a request. -/
def IsReadable : Call → Prop
  | resolveZone zone => Text.formEncode zone = zone.toList
  | createRule _ _ body | patchRule _ _ _ body => body.isPortable = true
  | _ => True

def identifiers : Call → List String
  | resolveZone _ => []
  | listContainers zoneId | createContainer zoneId _ => [zoneId]
  | fetchContainer zoneId containerId | createRule zoneId containerId _ => [zoneId, containerId]
  | patchRule zoneId containerId ruleId _ | deleteRule zoneId containerId ruleId =>
    [zoneId, containerId, ruleId]

/-- A call that a request tells: its identifiers are segments of a path, and what it carries is read
back. -/
structure IsPortable (call : Call) : Prop where
  identifiers : ∀ identifier ∈ call.identifiers, Http.Url.isSegment identifier.toList = true
  content : call.IsReadable

theorem IsPortable.segments {call : Call} (portable : call.IsPortable) :
    ∀ segment ∈ call.segments, Http.Url.isSegment segment.toList = true := by
  have fixed : Http.Url.isSegment "zones".toList = true ∧
      Http.Url.isSegment "rulesets".toList = true ∧ Http.Url.isSegment "rules".toList = true := by
    decide
  have named := portable.identifiers
  cases call <;>
    simp only [Call.segments, Call.identifiers, List.forall_mem_cons, List.not_mem_nil,
      false_imp_iff, implies_true, and_true] at named ⊢ <;>
    simp only [fixed, named, and_self]

end Call

namespace Http

open Server

private theorem Client.read?_address {client : Client} {base : Url} (plain : client.IsPlain base)
    {call : Call} (portable : call.IsPortable) :
    ∃ url, client.address call = .ok url ∧
      client.server.read? ⟨call.method, url, client.authorization, call.body⟩ = some call := by
  refine ⟨_, address_segments plain portable.segments, ?_⟩
  unfold read?
  simp only [Url.withQuery, server, List.take_left, if_true, List.drop_left, List.map_map]
  have names : call.segments.map (String.ofList ∘ String.toList) = call.segments := by
    simp [Function.comp_def]
  rw [names]
  cases call with
  | resolveZone zone =>
    have named : Text.formEncode zone = zone.toList := portable.content
    have name : Text.formEncode "name" = ['n', 'a', 'm', 'e'] := by decide +kernel
    have read : zone? (some (['n', 'a', 'm', 'e', '='] ++ zone.toList)) = some zone := by
      unfold zone?
      rw [Option.bind_eq_bind, Option.bind_some, Text.expect?_append]
      exact congrArg some String.ofList_toList
    simp only [Call.method, Call.segments, call?, Call.query]
    simpa [plain.query, named, name] using read
  | listContainers zoneId => rfl
  | createContainer zoneId phase =>
    simp [Call.method, Call.segments, call?, Call.body, phase?, Value.member?, Value.string?,
      List.lookup_cons, Phase.ofWord_word]
  | fetchContainer zoneId containerId => rfl
  | createRule zoneId containerId body =>
    have read := RuleBody.ofJson?_json portable.content
    simp [Call.method, Call.segments, call?, Call.body, rule?, read]
  | patchRule zoneId containerId ruleId body =>
    have read := RuleBody.ofJson?_json portable.content
    simp [Call.method, Call.segments, call?, Call.body, rule?, read]
  | deleteRule zoneId containerId ruleId => rfl

theorem Client.served_eq {client : Client} {base : Url} (plain : client.IsPlain base)
    {call : Call} (portable : call.IsPortable) (store : Store) :
    client.served call store =
      (reply call (respond call (Store.answer call store)), (Store.answer call store).2) := by
  obtain ⟨url, addressed, understood⟩ := read?_address plain portable
  have once : (sendOnce client.server.link client call).run store =
      (.ok (respond call (Store.answer call store)), (Store.answer call store).2) := by
    have response : (client.server.serve
        ⟨call.method, url, client.authorization, call.body⟩).run store =
        (respond call (Store.answer call store), (Store.answer call store).2) := by
      show (match client.server.read? _ with
        | some call => (respond call (Store.answer call store), (Store.answer call store).2)
        | none => _) = _
      rw [understood]
    unfold sendOnce
    rw [addressed]
    simp only [link, StateT.run_bind, StateT.run_map, response]
    rfl
  have attempted : (Retry.attempt client.server.link.pause client.maxRetries
      (sendOnce client.server.link client call)).run store =
      (.ok (respond call (Store.answer call store)), (Store.answer call store).2) := by
    unfold Retry.attempt
    cases client.maxRetries with
    | zero => exact once
    | succ retries =>
      rw [Retry.attemptFrom, StateT.run_bind, once]
      rfl
  unfold served answer
  rw [StateT.run_bind, attempted]
  rfl

end Http

namespace Error

/-- Two failures of calls, or one and the same failure. -/
inductive Alike : Error → Error → Prop
  | remote (endpoint endpoint' : String) (status status' : Option Nat)
      (cause cause' : RemoteCause) :
      Alike (.remote endpoint status cause) (.remote endpoint' status' cause')
  | same (fault : Error) : Alike fault fault

end Error

/-- Two attempts succeed with related results, or fail alike. -/
def Likewise {α β : Type} (related : α → β → Prop) : Except Error α → Except Error β → Prop
  | .ok a, .ok b => related a b
  | .error fault, .error fault' => fault.Alike fault'
  | _, _ => False

end EdgePolicy
