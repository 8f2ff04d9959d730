import EdgePolicy.Http.Configuration
import EdgePolicy.Http.Envelope
import EdgePolicy.Http.Retry
import EdgePolicy.Zone.Call

/-
The platform behind a link.

Every call becomes one request, and its response becomes the reply.  A change of a rule is answered
with the whole container, from which the rule is picked; a deletion is done as soon as the response
is one of success.
-/

set_option autoImplicit false
set_option relaxedAutoImplicit false

namespace EdgePolicy

open Json (Document Value)

namespace Call

def method : Call → Http.Method
  | resolveZone _ | listContainers _ | fetchContainer _ _ => .get
  | createContainer _ _ | createRule _ _ _ => .post
  | patchRule _ _ _ _ => .patch
  | deleteRule _ _ _ => .delete

def endpoint (call : Call) : String := s!"{call.method.word} {call.path}"

def query : Call → List (String × String)
  | resolveZone zone => [("name", zone)]
  | _ => []

def body : Call → Option Value
  | createContainer _ phase =>
    some (.object [("name", .string phase.containerName),
      ("description", .string phase.containerDescription), ("kind", .string "zone"),
      ("phase", .string phase.word)])
  | createRule _ _ body => some body.json
  | patchRule _ _ _ body => some body.json
  | _ => none

end Call

namespace Http

structure Client where
  root : String
  authorization : String
  maxRetries : Nat
deriving DecidableEq, Repr, Inhabited

namespace Client

def isHeaderByte (b : UInt8) : Bool := (32 ≤ b && b != 127) || b == 9

def withoutSlashes (s : String) : String :=
  String.ofList (s.toList.reverse.dropWhile (· == '/')).reverse

def of (configuration : Configuration) : Except ConfigurationFault Client :=
  let authorization := s!"Bearer {configuration.token}"
  if authorization.toUTF8.data.toList.all isHeaderByte then
    .ok {
      root := withoutSlashes configuration.baseUrl.text
      authorization
      maxRetries := configuration.maxRetries }
  else .error .headerToken

/-- The address that a request goes to, or the cause for which none can be sent: only hosts of the
two schemes of the web are asked. -/
def address (client : Client) (call : Call) : Except RemoteCause Url :=
  match Url.ofText? (client.root ++ call.path) with
  | none => .error (.unsendable none)
  | some url =>
    if url.host.isNone then .error (.unsendable (some url.text))
    else
      let url := url.withQuery call.query
      if url.scheme = "http" ∨ url.scheme = "https" then .ok url
      else .error (.unsendable (some url.text))

def failure (call : Call) (status : Option Nat) (cause : RemoteCause) : Error :=
  .remote call.endpoint status cause

def sendOnce {m : Type → Type} [Monad m] (link : Link m) (client : Client) (call : Call) :
    m (Except RemoteCause Response) :=
  match client.address call with
  | .error cause => pure (.error cause)
  | .ok url => do
    match ← link.send ⟨call.method, url, client.authorization, call.body⟩ with
    | some response => return .ok response
    | none => return .error (.unsent url.text)

/-- The body of the response to a call, if the response is one of success. -/
def bodyOf (call : Call) (response : Response) : Except Error String :=
  match response.body with
  | none => .error (failure call (some response.status) .unreadableBody)
  | some body =>
    if response.isSuccess then .ok body
    else .error (failure call (some response.status) (.reported (response.complaint body)))

def resultOf {α : Type} (call : Call) (decode : Document → Option α) (response : Response) :
    Except Error α := do
  let body ← bodyOf call response
  let some envelope := Envelope.ofText? decode body | .error (failure call none .unexpectedShape)
  envelope.result?.mapError (failure call none)

def zoneId? (document : Document) : Option String := do
  (← document.record? ["id"] []).required? "id" Document.string?

/-- The first rule of a returned container that satisfies a test. -/
def returned (call : Call) (test : RemoteRule → Bool) (container : Snapshot) :
    Except Error RemoteRule :=
  match container.rules.find? test with
  | some rule => .ok rule
  | none => .error (failure call none .ruleNotReturned)

def reply : (call : Call) → Response → Except Error call.Reply
  | call@(.resolveZone zone), response => do
    match ← resultOf call (Document.list? zoneId?) response with
    | zoneId :: _ => .ok zoneId
    | [] => .error (.zoneNotFound zone)
  | call@(.listContainers _), response =>
    resultOf call (Document.list? ContainerSummary.ofJson?) response
  | call@(.createContainer _ _), response => resultOf call ContainerSummary.ofJson? response
  | call@(.fetchContainer _ _), response => resultOf call Snapshot.ofJson? response
  | call@(.createRule _ _ body), response => do
    returned call (·.tag == body.tag) (← resultOf call Snapshot.ofJson? response)
  | call@(.patchRule _ _ ruleId _), response => do
    returned call (·.id == ruleId) (← resultOf call Snapshot.ofJson? response)
  | call@(.deleteRule _ _ _), response => do
    let _ ← bodyOf call response
    return ()

/-- Answer a call over a link, with retries while it cannot be sent. -/
def answer {m : Type → Type} [Monad m] (link : Link m) (client : Client) (call : Call) :
    m (Except Error call.Reply) := do
  match ← Retry.attempt link.pause client.maxRetries (sendOnce link client call) with
  | .ok response => return reply call response
  | .error cause => return .error (failure call none cause)

end Client

end Http

end EdgePolicy
