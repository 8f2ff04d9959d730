import EdgePolicy.Proofs.Http.Server

/-
What a client learns from the responses of its server.

Every call has the same success as on the platform itself, and what it is answered with comes
through as it was sent, apart from parameters that are `null` (`Client.served_agree`).  The rule
that a change returns is found in the returned container by its identifier, or by its tag when it
was created and no other rule has the tag.
-/

set_option autoImplicit false
set_option relaxedAutoImplicit false

namespace EdgePolicy

open Json (Document Fields Value)

/-- A platform whose rules survive a response and whose identifiers are segments of a path. -/
structure Store.IsPortable (store : Store) : Prop where
  containerIds : ∀ container ∈ store.containers,
    Http.Url.isSegment container.summary.id.toList = true
  ruleIds : ∀ container ∈ store.containers, ∀ rule ∈ container.rules,
    Http.Url.isSegment rule.id.toList = true
  rules : ∀ container ∈ store.containers, ∀ rule ∈ container.rules, rule.isPortable = true

private theorem Http.Url.isSegment_issued (n : Nat) :
    isSegment s!"ruleset-{n}".toList = true ∧ isSegment s!"rule-{n}".toList = true := by
  have digits : ∀ c ∈ Text.digits n, isUnreserved c = true := by
    obtain ⟨ds, written, bounds, -⟩ := Text.spells_digits n
    have each : ∀ d < 10, isUnreserved (Nat.digitChar d) = true := by decide
    rw [written]
    exact List.forall_mem_map.mpr fun d member => each d (bounds d member)
  -- What starts with a letter is no dot segment.
  have numbered (start : List Char) (plain : ∀ c ∈ 'r' :: start, isUnreserved c = true) :
      isSegment ('r' :: start ++ Text.digits n) = true := by
    have other (dots : String) (head : dots.toList.head? ≠ some 'r') :
        (String.ofList (('r' :: start ++ Text.digits n).map Char.toLower) == dots) = false := by
      rw [beq_eq_false_iff_ne]
      rintro rfl
      exact head (by rw [String.toList_ofList]; rfl)
    refine isSegment_iff.mpr ⟨List.forall_mem_append.mpr ⟨plain, digits⟩, ?_, ?_⟩
    · simp only [isDoubleDot, other ".." (by decide), other ".%2e" (by decide),
        other "%2e." (by decide), other "%2e%2e" (by decide), Bool.or_false]
    · simp only [isSingleDot, other "." (by decide), other "%2e" (by decide), Bool.or_false]
  have container : s!"ruleset-{n}".toList = "ruleset-".toList ++ Text.digits n := by
    simp [Text.digits, toString, String.toList_append]
  have rule : s!"rule-{n}".toList = "rule-".toList ++ Text.digits n := by
    simp [Text.digits, toString, String.toList_append]
  rw [container, rule]
  exact ⟨numbered "uleset-".toList (by decide), numbered "ule-".toList (by decide)⟩

private theorem RuleBody.parameters_isPortable {body : RuleBody}
    (portable : body.isPortable = true) :
    body.parameters.all Value.isPortable = true := by
  have given := (Bool.and_eq_true_iff.mp portable).2
  cases parameters : body.parameters with
  | none => rfl
  | some value =>
    rw [parameters] at given
    exact (Json.areGiven_some given).1

namespace Store.IsPortable

variable {before after : Store}

theorem withRules (portable : before.IsPortable) {zoneId containerId : String}
    {container : Container} {rules : List RemoteRule}
    (found : before.container? zoneId containerId = some container)
    (containers : after.containers = (before.withRules zoneId containerId rules).containers)
    (ids : ∀ rule ∈ rules, Http.Url.isSegment rule.id.toList = true)
    (held : ∀ rule ∈ rules, rule.isPortable = true) : after.IsPortable := by
  obtain ⟨front, back, shape, absent, here⟩ := container?_split found
  rw [withRules_containers shape absent here] at containers
  obtain ⟨containerIds, ruleIds, rules'⟩ := portable
  rw [shape] at containerIds ruleIds rules'
  simp only [List.forall_mem_append, List.forall_mem_cons] at containerIds ruleIds rules'
  constructor <;> rw [containers] <;> simp only [List.forall_mem_append, List.forall_mem_cons]
  · exact containerIds
  · exact ⟨ruleIds.1, ids, ruleIds.2.2⟩
  · exact ⟨rules'.1, held, rules'.2.2⟩

theorem of_containers_eq (portable : before.IsPortable)
    (same : after.containers = before.containers) : after.IsPortable := by
  obtain ⟨containerIds, ruleIds, rules⟩ := portable
  rw [← same] at containerIds ruleIds rules
  exact ⟨containerIds, ruleIds, rules⟩

theorem answered (portable : before.IsPortable) {call : Call} (asked : call.IsPortable)
    (answered : before.Answered after call) : after.IsPortable := by
  cases answered with
  | kept containers issued => exact portable.of_containers_eq containers
  | provisioned zoneId phase containers issued =>
    obtain ⟨containerIds, ruleIds, rules⟩ := portable
    constructor <;> rw [containers] <;>
      simp only [List.forall_mem_append, List.forall_mem_singleton, Store.provisioned]
    · exact ⟨containerIds, (Http.Url.isSegment_issued _).1⟩
    · exact ⟨ruleIds, List.forall_mem_nil _⟩
    · exact ⟨rules, List.forall_mem_nil _⟩
  | @created zoneId containerId body container front back found shape containers issued =>
    have member := List.mem_of_find?_eq_some found
    have ids := portable.ruleIds container member
    have held := portable.rules container member
    rw [shape] at ids held
    simp only [List.forall_mem_append] at ids held
    refine portable.withRules found containers ?_ ?_ <;>
      simp only [List.forall_mem_append, List.forall_mem_cons]
    · exact ⟨ids.1, (Http.Url.isSegment_issued _).2, ids.2⟩
    · have body : body.isPortable = true := asked.content
      exact ⟨held.1, Bool.and_eq_true_iff.mpr ⟨(Bool.and_eq_true_iff.mp body).1,
        RuleBody.parameters_isPortable body⟩, held.2⟩
  | @patched zoneId containerId body container front back old found shape containers issued =>
    have member := List.mem_of_find?_eq_some found
    have ids := portable.ruleIds container member
    have held := portable.rules container member
    rw [shape] at ids held
    simp only [List.forall_mem_append, List.forall_mem_cons] at ids held
    refine portable.withRules found containers ?_ ?_ <;>
      simp only [List.forall_mem_append, List.forall_mem_cons]
    · exact ids
    · have body : body.isPortable = true := asked.content
      exact ⟨held.1, Bool.and_eq_true_iff.mpr ⟨(Bool.and_eq_true_iff.mp body).1,
        RuleBody.parameters_isPortable body⟩, held.2.2⟩
  | deleted found containers issued =>
    have member := List.mem_of_find?_eq_some found
    refine portable.withRules found containers (fun rule kept => ?_) fun rule kept => ?_
    · exact portable.ruleIds _ member rule (List.mem_of_mem_filter kept)
    · exact portable.rules _ member rule (List.mem_of_mem_filter kept)

end Store.IsPortable

/-- What a call is answered with, as it comes through a response. -/
def Call.received : (call : Call) → call.Reply → call.Reply
  | .fetchContainer _ _, snapshot => snapshot.received
  | .createRule _ _ _, rule => rule.received
  | .patchRule _ _ _ _, rule => rule.received
  | .resolveZone _, zoneId => zoneId
  | .listContainers _, containers => containers
  | .createContainer _ _, container => container
  | .deleteRule _ _ _, done => done

/-- A second answer to a call says what the first one says, as far as that comes through. -/
def Call.Agrees (call : Call) : Except Error call.Reply → Except Error call.Reply → Prop :=
  Likewise fun reply reply' => reply' = call.received reply

theorem Call.Agrees.ok {call : Call} {reply : call.Reply} {answer : Except Error call.Reply}
    (read : answer = .ok (call.received reply)) : call.Agrees (.ok reply) answer := by
  rw [read]
  rfl

def Json.Document.ofChars? (cs : List Char) : Option Document := do
  let (document, rest) ← Json.Reader.document? (cs.length + 1) 0 cs
  if (Json.Reader.skipBlanks rest).isEmpty then some document else none

theorem Json.Document.ofText?_ofList (cs : List Char) :
    ofText? (String.ofList cs) = ofChars? cs := by
  unfold ofText? ofChars?
  rw [String.toList_ofList]

namespace Http

open Server

private theorem Client.resultOf_envelope {α : Type} {decode : Document → Option α} {value : Value}
    {a : α} (call : Call) (travels : value.Travels 1)
    (read : Document.orNull? decode value.document = some (some a)) :
    resultOf call decode (success value) = .ok a := by
  have travels' : (envelope value).Travels 0 := by
    refine .object (by decide) ?_
    simp only [List.forall_mem_cons]
    exact ⟨.bool _ (by decide), .array (by decide) (List.forall_mem_nil _),
      .array (by decide) (List.forall_mem_nil _), travels, List.forall_mem_nil _⟩
  have opened : Envelope.ofText? decode (envelope value).compact =
      some ⟨some true, [], some a⟩ := by
    unfold Envelope.ofText? Envelope.ofJson?
    rw [travels'.ofText?, Option.bind_some, envelope, Json.record?_object]
    have success : Document.orNull? Document.bool? (Value.bool true).document =
        some (some true) := rfl
    have errors : (Value.array []).document.list? ReportedError.ofJson? = some [] := rfl
    simp [Fields.optional?, Fields.withDefault?, success, errors, read]
  have body : bodyOf call (success value) = .ok (envelope value).compact := rfl
  unfold resultOf
  rw [body]
  simp only [Except.bind, bind, opened]
  rfl

theorem Client.resultOf_success {α : Type} (decode : Document → Option α) (value : Value)
    (call : Call) :
    resultOf call decode (success value) =
      match (Document.ofChars? (Json.Writer.compact (envelope value))).bind
          (Envelope.ofJson? decode) with
      | some envelope => envelope.result?.mapError (failure call none)
      | none => .error (failure call none .unexpectedShape) := by
  have body : bodyOf call (success value) = .ok (envelope value).compact := rfl
  have read : Envelope.ofText? decode (envelope value).compact =
      (Document.ofChars? (Json.Writer.compact (envelope value))).bind
        (Envelope.ofJson? decode) := by
    unfold Envelope.ofText? Value.compact
    rw [Document.ofText?_ofList]
  unfold resultOf
  rw [body]
  simp only [Except.bind, bind, read]
  cases (Document.ofChars? (Json.Writer.compact (envelope value))).bind
    (Envelope.ofJson? decode) <;> rfl

private theorem Client.bodyOf_failed (call : Call) {response : Response}
    (status : 300 ≤ response.status) {body : String} (arrived : response.body = some body) :
    bodyOf call response =
      .error (failure call (some response.status) (.reported (response.complaint body))) := by
  have refused : response.isSuccess = false := by
    simp [Response.isSuccess]
    omega
  unfold bodyOf
  rw [arrived, refused]
  rfl

private theorem Client.reply_failed {call : Call} {response : Response}
    (status : 300 ≤ response.status) {body : String} (arrived : response.body = some body) :
    reply call response =
      .error (failure call (some response.status) (.reported (response.complaint body))) := by
  have refused := bodyOf_failed call status arrived
  cases call <;> simp only [reply, resultOf] <;> rw [refused] <;> rfl

private theorem orNull?_object {α : Type} {decode : Document → Option α}
    {members : List (String × Value)} {a : α}
    (read : decode (Value.object members).document = some a) :
    Document.orNull? decode (Value.object members).document = some (some a) :=
  congrArg (Option.map some) read

private theorem orNull?_array {α : Type} {decode : Document → Option α} {items : List Value} {a : α}
    (read : decode (Value.array items).document = some a) :
    Document.orNull? decode (Value.array items).document = some (some a) :=
  congrArg (Option.map some) read

private theorem Client.resultOf_container (call : Call) {store : Store}
    (portable : store.IsPortable) {zoneId containerId : String} {held : Container}
    (found : store.container? zoneId containerId = some held) :
    resultOf call Snapshot.ofJson? (success (container store zoneId containerId)) =
      .ok held.snapshot.received := by
  have rules : ∀ rule ∈ held.snapshot.rules, rule.isPortable = true :=
    portable.rules held (List.mem_of_find?_eq_some found)
  unfold container
  rw [found]
  exact resultOf_envelope call (Snapshot.travels rules)
    (orNull?_object (Snapshot.ofJson?_json rules))

private theorem Client.returned_received (call : Call) {test : RemoteRule → Bool} {held : Container}
    {front back : List RemoteRule} {rule : RemoteRule} (satisfies : test rule.received = true)
    (others : ∀ other ∈ front, test other.received = false) :
    returned call test
        ({ held with rules := front ++ rule :: back } : Container).snapshot.received =
      .ok rule.received := by
  have first : (front.map RemoteRule.received).find? test = none :=
    List.find?_eq_none.mpr (List.forall_mem_map.mpr fun other member => by
      simp [others other member])
  have found : (({ held with rules := front ++ rule :: back } : Container).snapshot.received).rules =
      front.map RemoteRule.received ++ rule.received :: back.map RemoteRule.received := by
    simp [Snapshot.received, Container.snapshot]
  unfold returned
  rw [found, List.find?_append, first, Option.none_or, List.find?_cons_of_pos satisfies]

section

variable {call : Call} {store : Store}

private theorem Client.reply_zones (zone : String) (zoneIds : List String) :
    reply (.resolveZone zone) (success (.array (zoneIds.map fun zoneId =>
        .object [("id", .string zoneId), ("name", .string zone)]))) =
      match zoneIds with
      | zoneId :: _ => .ok zoneId
      | [] => .error (.zoneNotFound zone) := by
  have travels : (Value.array (zoneIds.map fun zoneId =>
      .object [("id", .string zoneId), ("name", .string zone)])).Travels 1 := by
    refine .array (by decide) (List.forall_mem_map.mpr fun zoneId _ => .object (by decide) ?_)
    simp only [List.forall_mem_cons]
    exact ⟨.string _ (by decide), .string _ (by decide), List.forall_mem_nil _⟩
  have listed : (Value.array (zoneIds.map fun zoneId =>
      .object [("id", .string zoneId), ("name", .string zone)])).document.list? zoneId? =
        some zoneIds :=
    Json.list?_array fun zoneId _ => rfl
  simp only [reply]
  rw [resultOf_envelope _ travels (orNull?_array listed)]
  cases zoneIds <;> rfl

theorem Client.reply_containers (zoneId : String) (containers : List ContainerSummary) :
    reply (.listContainers zoneId) (success (.array (containers.map ContainerSummary.json))) =
      .ok containers := by
  have travels : (Value.array (containers.map ContainerSummary.json)).Travels 1 :=
    .array (by decide) (List.forall_mem_map.mpr fun container _ =>
      ContainerSummary.travels container (by decide))
  exact resultOf_envelope _ travels (orNull?_array (Json.list?_array fun container _ =>
    ContainerSummary.ofJson?_json container))

private theorem Client.reply_provisioned (zoneId : String) (phase : Phase)
    (container : ContainerSummary) :
    reply (.createContainer zoneId phase) (success container.json) = .ok container :=
  resultOf_envelope _ (ContainerSummary.travels container (by decide))
    (orNull?_object (ContainerSummary.ofJson?_json container))

private theorem Client.reply_fetched (zoneId containerId : String) {snapshot : Snapshot}
    (portable : ∀ rule ∈ snapshot.rules, rule.isPortable = true) :
    reply (.fetchContainer zoneId containerId) (success snapshot.json) = .ok snapshot.received :=
  resultOf_envelope _ (Snapshot.travels portable) (orNull?_object (Snapshot.ofJson?_json portable))

/-- The client learns from every call what the platform answers, and leaves the platform as the
call itself leaves it. -/
theorem Client.served_agree {client : Client} {base : Url} (plain : client.IsPlain base)
    {call : Call} (asked : call.IsPortable) {store : Store} (portable : store.IsPortable)
    (untagged : ∀ zoneId containerId body, call = .createRule zoneId containerId body →
      (store.rulesAt zoneId containerId).filter (·.tag == body.tag) = []) :
    call.Agrees (Store.answer call store).1 (client.served call store).1 ∧
      (client.served call store).2 = (Store.answer call store).2 := by
  rw [served_eq plain asked]
  refine ⟨?_, rfl⟩
  show call.Agrees _ (reply call (respond call (Store.answer call store)))
  have portable' := portable.answered asked (Store.answer_answered call store)
  cases answered : (Store.answer call store).1 with
  | error fault =>
    rcases Store.answer_fault answered with ⟨zone, rfl, rfl⟩ | ⟨endpoint, status, cause, rfl, high⟩
    · have response : respond (.resolveZone zone) (Store.answer (.resolveZone zone) store) =
          success (.array []) := by
        rw [respond, answered]
      have unknown := reply_zones zone []
      rw [response]
      exact unknown ▸ .same _
    · have response : respond call (Store.answer call store) =
          Server.failure status cause.message := by
        rw [respond, answered]
      have refused : 300 ≤ (Server.failure status cause.message).status := high
      rw [response, reply_failed refused rfl]
      exact .remote _ _ _ _ _ _
  | ok answer =>
    have response : respond call (Store.answer call store) =
        success (result call answer (Store.answer call store).2) := by
      rw [respond, answered]
    rw [response]
    refine Call.Agrees.ok ?_
    cases call with
    | resolveZone zone => exact reply_zones zone [answer]
    | listContainers zoneId => exact reply_containers zoneId answer
    | createContainer zoneId phase =>
      simp only [result]
      exact reply_provisioned zoneId phase answer
    | fetchContainer zoneId containerId =>
      obtain ⟨held, -, found, rfl⟩ := Store.container?_fetched answered
      simp only [result]
      exact reply_fetched zoneId containerId
        (portable'.rules held (List.mem_of_find?_eq_some found))
    | createRule zoneId containerId body =>
      obtain ⟨held, front, back, before, shape, tag, after⟩ := Store.container?_created answered
      have read := resultOf_container (.createRule zoneId containerId body) portable' after
      have others := untagged zoneId containerId body rfl
      rw [Store.rulesAt_of_container? before, shape, List.filter_append,
        List.append_eq_nil_iff] at others
      simp only [reply, result]
      rw [read]
      refine returned_received _ (beq_iff_eq.mpr tag) fun other member => ?_
      simpa using List.filter_eq_nil_iff.mp others.1 other member
    | patchRule zoneId containerId ruleId body =>
      obtain ⟨held, front, back, others, named, after⟩ := Store.container?_patched answered
      have read := resultOf_container (.patchRule zoneId containerId ruleId body) portable' after
      simp only [reply, result]
      rw [read]
      refine returned_received _ (beq_iff_eq.mpr named) fun other member => ?_
      simpa using others other member
    | deleteRule zoneId containerId ruleId => rfl

end

end Http

end EdgePolicy
