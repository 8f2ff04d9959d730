import EdgePolicy.Http.Client
import EdgePolicy.Proofs.Json.Fields

/-
What a client takes for success.

The reply to a call is read from the first response that comes back within the retries
(`Client.answer_scripted`).  What is read comes from a response of success, and for every call but a
deletion from one that does not say that the request was not successful (`Client.reply_reads`).  A
deletion never looks at what the response says.
-/

set_option autoImplicit false
set_option relaxedAutoImplicit false

namespace EdgePolicy

open Json (Document Fields)

namespace Http

/-- The body of a response is an envelope, as an object or an array, that says that the request was
not successful. -/
def Response.deniesSuccess (response : Response) : Bool :=
  match response.body.bind Document.ofText? with
  | some (.object members) =>
    members.any fun member => member.1 == some "success" && member.2.bool? == some false
  | some (.array (success :: _)) => success.bool? == some false
  | _ => false

private theorem Envelope.success_of_denies {α : Type} {decode : Document → Option α}
    {response : Response} {envelope : Envelope α}
    (opened : response.body.bind (ofText? decode) = some envelope)
    (denies : response.deniesSuccess = true) : envelope.success = some false := by
  unfold Response.deniesSuccess at denies
  obtain ⟨body, arrived, opened⟩ := Option.bind_eq_some_iff.mp opened
  obtain ⟨document, read, opened⟩ := Option.bind_eq_some_iff.mp opened
  rw [arrived, Option.bind_some, read] at denies
  simp only [ofJson?, Option.bind_eq_bind, Option.bind_eq_some_iff, Option.pure_def,
    Option.some.injEq] at opened
  obtain ⟨fields, named, success, said, errors, -, result, -, rfl⟩ := opened
  obtain ⟨value, member, denied⟩ :
      ∃ value : Document, ("success", value) ∈ fields ∧ value.bool? = some false := by
    split at denies
    case h_1 members same =>
      cases same
      obtain ⟨⟨name, value⟩, member, told⟩ := List.any_eq_true.mp denies
      simp only [Bool.and_eq_true, beq_iff_eq] at told
      obtain ⟨rfl, denied⟩ := told
      exact ⟨value, Document.mem_fields? named member, denied⟩
    case h_2 value items same =>
      cases same
      rw [Document.eq_zip_of_record? named]
      exact ⟨value, List.mem_cons_self, beq_iff_eq.mp denies⟩
    case h_3 => cases denies
  have decoded := Fields.orNull?_of_optional? member said
  cases value with
  | bool value =>
    obtain rfl := Option.some.inj denied
    exact (Option.some.inj decoded).symm
  | _ => cases denied

private theorem Envelope.result?_ok {α : Type} {envelope : Envelope α} {a : α}
    (read : envelope.result? = .ok a) :
    envelope.success ≠ some false ∧ envelope.result = some a := by
  unfold result? at read
  split at read
  case isTrue => split at read <;> nomatch read
  case isFalse admitted =>
    split at read
    case h_1 result given => exact ⟨admitted, given.trans (congrArg some (Except.ok.inj read))⟩
    case h_2 => nomatch read

/-- The first response that comes back while some retries are made. -/
def Link.Script.used? (script : Script) (retries : Nat) : Option Response :=
  (script.answers.take (retries + 1)).findSome? id

namespace Client

/-- A call has failed at the platform, or on the way to it. -/
def Fails (call : Call) (fault : Error) : Prop :=
  ∃ status cause, fault = .remote call.endpoint status cause

/-- The envelope of a response has a result and does not deny success. -/
def Carries {α : Type} (decode : Document → Option α) (response : Response) (a : α) : Prop :=
  ∃ envelope, response.body.bind (Envelope.ofText? decode) = some envelope ∧
    envelope.success ≠ some false ∧ envelope.result = some a

/-- No zone is listed under the name that was looked up. -/
def FindsNone (call : Call) (response : Response) (fault : Error) : Prop :=
  ∃ zone, call = .resolveZone zone ∧ fault = .zoneNotFound zone ∧ response.isSuccess = true ∧
    Carries (Document.list? zoneId?) response []

/-- What is read from a response comes from one of success and satisfies a condition, or the fault
satisfies one. -/
def Reads (response : Response) {α : Type} (holds : α → Prop) (fails : Error → Prop) :
    Except Error α → Prop
  | .ok a => response.isSuccess = true ∧ holds a
  | .error fault => fails fault

theorem Carries.admits {α : Type} {decode : Document → Option α} {response : Response} {a : α}
    (carries : Carries decode response a) : response.deniesSuccess = false := by
  obtain ⟨envelope, opened, admitted, -⟩ := carries
  exact Bool.eq_false_iff.mpr fun denies => admitted (Envelope.success_of_denies opened denies)

namespace Reads

variable {α β : Type} {response : Response} {holds : α → Prop} {fails fails' : Error → Prop}
  {result : Except Error α}

theorem bind {f : α → Except Error β} {holds' : β → Prop}
    (reads : Reads response holds fails result) (weaker : ∀ fault, fails fault → fails' fault)
    (next : ∀ a, response.isSuccess = true → holds a → Reads response holds' fails' (f a)) :
    Reads response holds' fails' (result >>= f) := by
  cases result with
  | error fault => exact weaker fault reads
  | ok a => exact next a reads.1 reads.2

theorem imp {holds' : α → Prop} (reads : Reads response holds fails result)
    (weaker : ∀ a, holds a → holds' a) (weaker' : ∀ fault, fails fault → fails' fault) :
    Reads response holds' fails' result := by
  cases result with
  | error fault => exact weaker' fault reads
  | ok a => exact ⟨reads.1, weaker a reads.2⟩

end Reads

section Responses

variable (call : Call) (response : Response)

private theorem bodyOf_reads :
    Reads response (response.body = some ·) (Fails call) (bodyOf call response) := by
  unfold bodyOf
  split
  case h_1 => exact ⟨_, _, rfl⟩
  case h_2 body arrived =>
    split
    case isTrue success => exact ⟨success, arrived⟩
    case isFalse => exact ⟨_, _, rfl⟩

private theorem resultOf_reads {α : Type} (decode : Document → Option α) :
    Reads response (Carries decode response) (Fails call) (resultOf call decode response) := by
  refine (bodyOf_reads call response).bind (fun _ => id) ?_
  intro body success arrived
  cases opened : Envelope.ofText? decode body with
  | none => exact ⟨_, _, rfl⟩
  | some envelope =>
    show Reads response _ _ (envelope.result?.mapError (failure call none))
    cases given : envelope.result? with
    | error cause => exact ⟨_, _, rfl⟩
    | ok a =>
      have opened : response.body.bind (Envelope.ofText? decode) = some envelope := by
        rw [arrived, Option.bind_some, opened]
      exact ⟨success, envelope, opened, Envelope.result?_ok given⟩

private theorem returned_reads (test : RemoteRule → Bool) (container : Snapshot)
    (success : response.isSuccess = true) :
    Reads response (fun _ => True) (Fails call) (returned call test container) := by
  unfold returned
  split
  case h_1 => exact ⟨success, trivial⟩
  case h_2 => exact ⟨_, _, rfl⟩

/-- A reply of success comes from a response that does not deny it, unless a rule is deleted. -/
theorem reply_reads :
    Reads response (fun _ => call.operation ≠ .deleteRule → response.deniesSuccess = false)
      (fun fault => Fails call fault ∨ FindsNone call response fault) (reply call response) := by
  cases call with
  | resolveZone zone =>
    refine (resultOf_reads (.resolveZone zone) response (Document.list? zoneId?)).bind
      (fun _ => .inl) fun zoneIds success carries => ?_
    cases zoneIds with
    | nil => exact .inr ⟨zone, rfl, rfl, success, carries⟩
    | cons zoneId zoneIds => exact ⟨success, fun _ => carries.admits⟩
  | listContainers | createContainer | fetchContainer =>
    exact (resultOf_reads _ response _).imp (fun _ carries _ => carries.admits) fun _ => .inl
  | createRule | patchRule =>
    exact (resultOf_reads _ response _).bind (fun _ => .inl) fun container success carries =>
      (returned_reads _ response _ container success).imp (fun _ _ _ => carries.admits)
        fun _ => .inl
  | deleteRule =>
    refine (bodyOf_reads _ response).bind (fun _ => .inl) fun body success _ => ?_
    exact ⟨success, fun other => absurd rfl other⟩

end Responses

section Scripted

variable {client : Client} {call : Call} {url : Url}

private theorem sendOnce_scripted (address : client.address call = .ok url) (script : Link.Script) :
    (sendOnce .scripted client call).run script =
      (match script.answers.head?.join with
        | some response => .ok response
        | none => .error (.unsent url.text),
      { answers := script.answers.tail
        sent := script.sent ++ [⟨call.method, url, client.authorization, call.body⟩] }) := by
  unfold sendOnce
  rw [address]
  rcases script with ⟨_ | ⟨_ | response, answers⟩, sent⟩ <;> rfl

private theorem attempt_scripted (address : client.address call = .ok url) (index retries : Nat)
    (script : Link.Script) :
    ((Retry.attemptFrom Link.scripted.pause (sendOnce .scripted client call) index retries).run
        script).1 =
      match script.used? retries with
      | some response => .ok response
      | none => .error (.unsent url.text) := by
  induction retries generalizing index script with
  | zero =>
    rw [Retry.attemptFrom, sendOnce_scripted address]
    rcases script with ⟨_ | ⟨_ | response, answers⟩, sent⟩ <;> rfl
  | succ retries ih =>
    rw [Retry.attemptFrom, StateT.run_bind, sendOnce_scripted address]
    rcases script with ⟨_ | ⟨_ | response, answers⟩, sent⟩
    case nil => exact ih _ _
    case cons.none => exact ih _ _
    case cons.some => rfl

private theorem attempt_unsendable {cause : RemoteCause}
    (address : client.address call = .error cause) (index retries : Nat) (script : Link.Script) :
    ((Retry.attemptFrom Link.scripted.pause (sendOnce .scripted client call) index retries).run
        script).1 = .error cause := by
  have sent : (sendOnce .scripted client call).run script = (.error cause, script) := by
    unfold sendOnce
    rw [address]
    rfl
  induction retries generalizing index with
  | zero => rw [Retry.attemptFrom, sent]
  | succ retries ih =>
    rw [Retry.attemptFrom, StateT.run_bind, sent]
    exact ih _

/-- A call that can be sent is answered by the first response that comes back, and otherwise
fails. -/
theorem answer_scripted (client : Client) (call : Call) (script : Link.Script) :
    ((client.answer .scripted call).run script).1 =
      match client.address call with
      | .error cause => .error (failure call none cause)
      | .ok url => match script.used? client.maxRetries with
        | some response => reply call response
        | none => .error (failure call none (.unsent url.text)) := by
  have answered : ((client.answer .scripted call).run script).1 =
      (((Retry.attempt Link.scripted.pause client.maxRetries
        (sendOnce .scripted client call)).run script).1.mapError (failure call none)).bind
          (reply call) := by
    unfold answer
    rw [StateT.run_bind]
    rcases (Retry.attempt Link.scripted.pause client.maxRetries
      (sendOnce .scripted client call)).run script with ⟨_ | _, after⟩ <;> rfl
  rw [answered, Retry.attempt]
  cases address : client.address call with
  | error cause =>
    rw [attempt_unsendable address]
    rfl
  | ok url =>
    rw [attempt_scripted address]
    cases script.used? client.maxRetries <;> rfl

end Scripted

/-- Whatever comes back, a call succeeds with the first response, which is one of success and does
not deny that unless a rule is deleted.  Otherwise it fails as a call, or no zone is found. -/
theorem answer_accepted (client : Client) (call : Call) (script : Link.Script) :
    match ((client.answer .scripted call).run script).1 with
    | .ok _ => ∃ response, script.used? client.maxRetries = some response ∧
        200 ≤ response.status ∧ response.status ≤ 299 ∧
        (call.operation ≠ .deleteRule → response.deniesSuccess = false)
    | .error fault => Fails call fault ∨
        ∃ response, script.used? client.maxRetries = some response ∧
          FindsNone call response fault := by
  rw [answer_scripted]
  cases client.address call with
  | error cause => exact .inl ⟨_, _, rfl⟩
  | ok url =>
    cases script.used? client.maxRetries with
    | none => exact .inl ⟨_, _, rfl⟩
    | some response =>
      have reads := reply_reads call response
      simp only
      cases replied : reply call response with
      | error fault =>
        rw [replied] at reads
        exact Or.imp_right (fun none => ⟨response, rfl, none⟩) reads
      | ok value =>
        rw [replied] at reads
        obtain ⟨success, admits⟩ := reads
        obtain ⟨low, high⟩ := Bool.and_eq_true_iff.mp success
        exact ⟨response, rfl, of_decide_eq_true low, of_decide_eq_true high, admits⟩

/-- A client of a server on the same host. -/
def localClient : Client := ⟨"http://[::1]", "Bearer test-token", 0⟩

/-- A response of success that says that the request was not successful. -/
def lockedResponse : Response where
  status := 200
  body := some ("\x7b\"success\":false,\"errors\":[\x7b\"message\":\"ruleset locked\"\x7d]," ++
    "\"result\":null\x7d")

/-- A deletion is taken for done although its response says that it was not successful.  The same
response to any other call is a failure, as when the container is fetched. -/
theorem not_answer_accepted :
    (Link.Script.mk [some lockedResponse] []).used? localClient.maxRetries = some lockedResponse ∧
      lockedResponse.deniesSuccess = true ∧
      ((localClient.answer .scripted (.deleteRule "z1" "rs1" "B1")).run
        ⟨[some lockedResponse], []⟩).1.toOption = some () ∧
      ((localClient.answer .scripted (.fetchContainer "z1" "rs1")).run
        ⟨[some lockedResponse], []⟩).1.toOption = none :=
  ⟨rfl, by decide +kernel, by decide +kernel, by decide +kernel⟩

end Client

end Http

end EdgePolicy
