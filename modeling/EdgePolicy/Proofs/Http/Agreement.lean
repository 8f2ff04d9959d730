import EdgePolicy.Proofs.Http.Replies
import EdgePolicy.Reconcile

/-
Reconciling through a client is reconciling on the platform itself.

Both runs make the same calls from the same states, so they are followed side by side (`InStep`):
what one of them learns from a call is what the other one learns as it comes through a response, and
the difference does not show in a decision.  The platform and the logbook end up the same
(`Client.reconcile_agrees`).
-/

set_option autoImplicit false
set_option relaxedAutoImplicit false

namespace EdgePolicy

theorem Likewise.imp {α β : Type} {related related' : α → β → Prop} {result : Except Error α}
    {result' : Except Error β} (likewise : Likewise related result result')
    (weaker : ∀ a b, result = .ok a → related a b → related' a b) :
    Likewise related' result result' := by
  cases result <;> cases result' <;> first | exact weaker _ _ rfl likewise | exact likewise

private theorem Store.answer_available {store : Store} (available : store.failing = [])
    (call : Call) :
    answer call store = perform call (store.logged call) := by
  unfold answer
  rw [if_neg (by simp [available])]
  rfl

namespace Session

private theorem carryOut_request {σ : Type} (answers : Answers σ) (runId : RunId) (now : Timestamp)
    (call : Call) (session : Session σ) :
    carryOut answers runId now (Procedure.request call) session =
      ((answers call session.platform).1,
        { session with platform := (answers call session.platform).2 }) :=
  rfl

private theorem carryOut_lift {σ α : Type} (answers : Answers σ) (runId : RunId) (now : Timestamp)
    (result : Except Error α) (session : Session σ) :
    carryOut answers runId now (Procedure.lift result) session = (result, session) :=
  rfl

/-- Two procedures, each with its own answers, lead from a session to one session.  There they have
related results, or have failed alike. -/
def InStep {σ α β : Type} (answers answers' : Answers σ) (runId : RunId) (now : Timestamp)
    (procedure : Procedure α) (procedure' : Procedure β) (session : Session σ)
    (related : α → β → Session σ → Prop) : Prop :=
  (carryOut answers' runId now procedure' session).2 =
      (carryOut answers runId now procedure session).2 ∧
    Likewise (fun a b => related a b (carryOut answers runId now procedure session).2)
      (carryOut answers runId now procedure session).1
      (carryOut answers' runId now procedure' session).1

namespace InStep

variable {σ α β γ δ : Type} {answers answers' : Answers σ} {runId : RunId} {now : Timestamp}
  {session : Session σ}

theorem imp {procedure : Procedure α} {procedure' : Procedure β}
    {related related' : α → β → Session σ → Prop}
    (inStep : InStep answers answers' runId now procedure procedure' session related)
    (weaker : ∀ a b after, related a b after → related' a b after) :
    InStep answers answers' runId now procedure procedure' session related' :=
  ⟨inStep.1, inStep.2.imp fun a b _ => weaker a b _⟩

theorem done {result : Except Error α} {result' : Except Error β}
    {related : α → β → Session σ → Prop}
    (likewise : Likewise (fun a b => related a b session) result result') :
    InStep answers answers' runId now (.done result) (.done result') session related :=
  ⟨rfl, likewise⟩

theorem pure {a : α} {b : β} {related : α → β → Session σ → Prop} (holds : related a b session) :
    InStep answers answers' runId now (Pure.pure a : Procedure α) (Pure.pure b : Procedure β)
      session related :=
  ⟨rfl, holds⟩

theorem bind {procedure : Procedure α} {procedure' : Procedure β} {f : α → Procedure γ}
    {f' : β → Procedure δ} {related : γ → δ → Session σ → Prop}
    (inStep : InStep answers answers' runId now procedure procedure' session fun a b after =>
      InStep answers answers' runId now (f a) (f' b) after related) :
    InStep answers answers' runId now (procedure >>= f) (procedure' >>= f') session related := by
  obtain ⟨same, likewise⟩ := inStep
  unfold InStep
  rw [carryOut_bind, carryOut_bind]
  rcases reached : carryOut answers runId now procedure session with ⟨result, after⟩
  rcases reached' : carryOut answers' runId now procedure' session with ⟨result', after'⟩
  rw [reached, reached'] at same likewise
  obtain rfl : after' = after := same
  cases result <;> cases result' <;>
    first | exact ⟨rfl, likewise⟩ | exact likewise | exact likewise.elim

theorem lift {a : α} {b : β} {f : α → Procedure γ} {f' : β → Procedure δ}
    {related : γ → δ → Session σ → Prop}
    (inStep : InStep answers answers' runId now (f a) (f' b) session related) :
    InStep answers answers' runId now (Procedure.lift (.ok a) >>= f)
      (Procedure.lift (.ok b) >>= f') session related :=
  inStep

theorem request {call : Call} {related : call.Reply → call.Reply → Session σ → Prop}
    (same : (answers' call session.platform).2 = (answers call session.platform).2)
    (likewise : Likewise
      (fun a b => related a b { session with platform := (answers call session.platform).2 })
      (answers call session.platform).1 (answers' call session.platform).1) :
    InStep answers answers' runId now (Procedure.request call) (Procedure.request call) session
      related :=
  ⟨congrArg (fun platform => { session with platform }) same, likewise⟩

theorem attempt {call : Call}
    {related : Except Error call.Reply → Except Error call.Reply → Session σ → Prop}
    (same : (answers' call session.platform).2 = (answers call session.platform).2)
    (holds : related (answers call session.platform).1 (answers' call session.platform).1
      { session with platform := (answers call session.platform).2 }) :
    InStep answers answers' runId now (Procedure.attempt call) (Procedure.attempt call) session
      related :=
  ⟨congrArg (fun platform => { session with platform }) same, holds⟩

theorem record {decision : Decision} {related : Unit → Unit → Session σ → Prop}
    (holds : ∀ logbook, related () () { session with logbook }) :
    InStep answers answers' runId now (Procedure.record decision) (Procedure.record decision)
      session related := by
  unfold InStep Procedure.record
  rw [carryOut_note, carryOut_note]
  rcases session.logbook.record runId now decision with ⟨fault | done, logbook⟩
  · exact ⟨rfl, .same fault⟩
  · exact ⟨rfl, holds logbook⟩

end InStep

end Session

private theorem Snapshot.filter_of_tagged? {snapshot : Snapshot} {tag : String}
    {found : Option RemoteRule} (seen : snapshot.tagged? tag = .ok found) :
    snapshot.rules.filter (·.tag == tag) = found.toList := by
  unfold tagged? at seen
  split at seen
  · next none => cases seen; exact none
  · next rule only => cases seen; exact only
  · cases seen

private theorem Snapshot.tagged?_received (snapshot : Snapshot) (tag : String) :
    snapshot.received.tagged? tag = (snapshot.tagged? tag).map (·.map RemoteRule.received) := by
  have listed : snapshot.received.rules.filter (·.tag == tag) =
      (snapshot.rules.filter (·.tag == tag)).map RemoteRule.received := by
    simp [received, List.filter_map, Function.comp_def]
  unfold tagged?
  rw [listed]
  generalize snapshot.rules.filter (·.tag == tag) = rules
  rcases rules with _ | ⟨rule, _ | ⟨next, rules⟩⟩
  · rfl
  · rfl
  · simp [Except.map, received]

private theorem Category.position?_received (category : Category) (snapshot : Snapshot) :
    category.position? snapshot.received = category.position? snapshot := by
  have owned (category : Category) : snapshot.received.ownedBy category =
      (snapshot.ownedBy category).map RemoteRule.received := by
    simp [Snapshot.ownedBy, Snapshot.received, List.filter_map, Function.comp_def]
  unfold position?
  cases category.anchor? with
  | none => rfl
  | some anchor =>
    cases anchor <;>
      simp [Anchor.position?, owned, List.head?_map, List.getLast?_map, Function.comp_def]

/-- A body that is read back from a request. -/
def DesiredBody.isPortable (body : DesiredBody) : Bool :=
  body.action.isCanonical && Json.areGiven body.parameters

private theorem DesiredBody.matches_received {body : DesiredBody}
    (portable : body.isPortable = true)
    (rule : RemoteRule) : body.matches rule.received = body.matches rule := by
  have given := (Bool.and_eq_true_iff.mp portable).2
  have accepts : body.acceptsParameters (Json.received rule.parameters) =
      body.acceptsParameters rule.parameters := by
    unfold acceptsParameters
    cases want : body.parameters with
    | none => rfl
    | some value =>
      rw [want] at given
      have present := (Json.areGiven_some given).2
      rcases rule.parameters with _ | _ | _ <;> try rfl
      cases value <;> first | rfl | cases present
  unfold DesiredBody.matches
  rw [show rule.received.parameters = Json.received rule.parameters from rfl, accepts]
  rfl

/-- A desired rule whose body is read back from a request. -/
def DesiredRule.isPortable (desired : DesiredRule) : Bool := desired.body.all (·.isPortable)

namespace Http.Client

variable {client : Client} {base : Url} {runId : RunId} {now : Timestamp}
  {session : Session Store} {zoneId containerId : String} {phase : Phase}

private theorem attempt_inStep (plain : client.IsPlain base)
    (portable : session.platform.IsPortable) {call : Call} (asked : call.IsPortable)
    (untagged : ∀ zoneId containerId body, call = .createRule zoneId containerId body →
      (session.platform.rulesAt zoneId containerId).filter (·.tag == body.tag) = []) :
    Session.InStep Store.answer client.served runId now (Procedure.attempt call)
      (Procedure.attempt call) session fun reply reply' after =>
        call.Agrees reply reply' ∧ reply = (Store.answer call session.platform).1 ∧
        after.platform = (Store.answer call session.platform).2 ∧ after.platform.IsPortable := by
  obtain ⟨agrees, same⟩ := served_agree plain asked portable untagged
  exact .attempt same ⟨agrees, rfl, rfl,
    portable.answered asked (Store.answer_answered call session.platform)⟩

theorem request_inStep (plain : client.IsPlain base)
    (portable : session.platform.IsPortable)
    {call : Call} (asked : call.IsPortable)
    (untagged : ∀ zoneId containerId body, call = .createRule zoneId containerId body →
      (session.platform.rulesAt zoneId containerId).filter (·.tag == body.tag) = []) :
    Session.InStep Store.answer client.served runId now (Procedure.request call)
      (Procedure.request call) session fun reply reply' after =>
        reply' = call.received reply ∧ (Store.answer call session.platform).1 = .ok reply ∧
        after.platform = (Store.answer call session.platform).2 ∧ after.platform.IsPortable := by
  obtain ⟨agrees, same⟩ := served_agree plain asked portable untagged
  refine .request same (agrees.imp fun reply reply' answered received =>
    ⟨received, answered, rfl, ?_⟩)
  exact portable.answered asked (Store.answer_answered call session.platform)

theorem findContainer_inStep (plain : client.IsPlain base)
    (portable : session.platform.IsPortable) (zone : Url.isSegment zoneId.toList = true) :
    Session.InStep Store.answer client.served runId now (Procedure.findContainer zoneId phase)
      (Procedure.findContainer zoneId phase) session fun found found' after =>
        found' = found ∧ after.platform.IsPortable ∧
        ∀ summary, found = some summary → Url.isSegment summary.id.toList = true := by
  have asked : (Call.listContainers zoneId).IsPortable :=
    ⟨List.forall_mem_singleton.mpr zone, trivial⟩
  refine .bind ((request_inStep plain portable asked fun _ _ _ same => by cases same).imp ?_)
  rintro summaries _ after ⟨rfl, listed, -, portable'⟩
  refine .pure ⟨rfl, portable', fun summary selected => ?_⟩
  obtain ⟨container, member, rfl⟩ := Store.mem_of_selected listed selected
  exact portable.containerIds container member

theorem ensureContainer_inStep (plain : client.IsPlain base)
    (portable : session.platform.IsPortable) (zone : Url.isSegment zoneId.toList = true) :
    Session.InStep Store.answer client.served runId now (Procedure.ensureContainer zoneId phase)
      (Procedure.ensureContainer zoneId phase) session fun id id' after =>
        id' = id ∧ after.platform.IsPortable ∧ Url.isSegment id.toList = true := by
  refine .bind ((findContainer_inStep plain portable zone).imp ?_)
  rintro _ found middle ⟨rfl, portable, segment⟩
  cases found with
  | some summary => exact .pure ⟨rfl, portable, segment summary rfl⟩
  | none =>
    have asked : (Call.createContainer zoneId phase).IsPortable :=
      ⟨List.forall_mem_singleton.mpr zone, trivial⟩
    refine .bind ((attempt_inStep plain portable asked fun _ _ _ same => by cases same).imp ?_)
    rintro reply reply' after ⟨agrees, answered, platform, portable⟩
    -- A failed creation is made good, or not, alike on both sides.
    rcases reply with fault | summary <;> rcases reply' with fault' | summary'
    · refine .bind ((findContainer_inStep plain portable zone).imp ?_)
      rintro _ found last ⟨rfl, portable, segment⟩
      cases found with
      | some summary => exact .pure ⟨rfl, portable, segment summary rfl⟩
      | none => exact .done (.same _)
    · exact agrees.elim
    · exact agrees.elim
    · obtain rfl : summary' = summary := agrees
      obtain ⟨container, member, rfl⟩ := Store.mem_of_provisioned answered.symm
      rw [← platform] at member
      exact .pure ⟨rfl, portable, portable.containerIds container member⟩

end Http.Client

namespace DesiredRule

open Http (Client Url)
open Json (Value)

variable {client : Client} {base : Url} {runId : RunId} {now : Timestamp}
  {session : Session Store} {zoneId containerId : String} {desired : DesiredRule}

private theorem locate_inStep (plain : client.IsPlain base) (portable : session.platform.IsPortable)
    (zone : Url.isSegment zoneId.toList = true) :
    Session.InStep Store.answer client.served runId now (desired.locate zoneId)
      (desired.locate zoneId) session fun found found' after =>
        found' = found ∧ after.platform.IsPortable ∧
        ∀ containerId, found = some containerId → Url.isSegment containerId.toList = true := by
  unfold locate
  cases desired.body with
  | none =>
    refine .bind ((Client.findContainer_inStep plain portable zone).imp ?_)
    rintro _ found after ⟨rfl, portable, segment⟩
    refine .pure ⟨rfl, portable, fun containerId here => ?_⟩
    obtain ⟨summary, rfl, rfl⟩ := Option.map_eq_some_iff.mp here
    exact segment summary rfl
  | some body =>
    refine .bind ((Client.ensureContainer_inStep plain portable zone).imp ?_)
    rintro _ containerId after ⟨rfl, portable, segment⟩
    refine .pure ⟨rfl, portable, fun _ here => ?_⟩
    cases here
    exact segment

private theorem settle_inStep (plain : client.IsPlain base) (portable : session.platform.IsPortable)
    (zone : Url.isSegment zoneId.toList = true)
    (container : Url.isSegment containerId.toList = true) (wanted : desired.isPortable = true)
    {snapshot : Snapshot} (seen : session.platform.rulesAt zoneId containerId = snapshot.rules)
    (ids : ∀ rule ∈ snapshot.rules, Url.isSegment rule.id.toList = true) :
    Session.InStep Store.answer client.served runId now
      (desired.settle zoneId containerId snapshot)
      (desired.settle zoneId containerId snapshot.received) session
      fun outcome outcome' _ => outcome' = outcome := by
  unfold settle
  rw [Snapshot.tagged?_received]
  cases found : snapshot.tagged? desired.tag with
  | error fault => exact .bind (.done (.same fault))
  | ok rule? =>
    have tagged := Snapshot.filter_of_tagged? found
    refine .lift ?_
    unfold isPortable at wanted
    cases rule? with
    | none =>
      cases wants : desired.body with
      | none => exact .pure rfl
      | some body =>
        rw [wants] at wanted
        have asked : (Call.createRule zoneId containerId (body.request desired.tag
            (desired.category.position? snapshot))).IsPortable :=
          ⟨by simp [Call.identifiers, zone, container], wanted⟩
        simp only [Option.map_none]
        rw [Category.position?_received]
        refine .bind ((Client.request_inStep plain portable asked ?_).imp ?_)
        · rintro _ _ _ same
          cases same
          rwa [seen]
        · rintro created _ after ⟨rfl, -⟩
          exact .pure rfl
    | some rule =>
      have here : rule ∈ snapshot.rules.filter (·.tag == desired.tag) := by
        rw [tagged]
        exact List.mem_singleton_self rule
      have id := ids rule (List.mem_of_mem_filter here)
      cases wants : desired.body with
      | none =>
        have asked : (Call.deleteRule zoneId containerId rule.id).IsPortable :=
          ⟨by simp [Call.identifiers, zone, container, id], trivial⟩
        refine .bind ((Client.request_inStep plain portable asked
          fun _ _ _ same => by cases same).imp ?_)
        rintro _ _ after ⟨rfl, -⟩
        exact .pure rfl
      | some body =>
        rw [wants] at wanted
        simp only [Option.map_some]
        rw [DesiredBody.matches_received wanted]
        by_cases matched : body.matches rule = true
        · rw [if_pos matched, if_pos matched]
          exact .pure rfl
        · rw [if_neg matched, if_neg matched]
          have asked : (Call.patchRule zoneId containerId rule.id
              (body.request desired.tag none)).IsPortable :=
            ⟨by simp [Call.identifiers, zone, container, id], wanted⟩
          refine .bind ((Client.request_inStep plain portable asked
            fun _ _ _ same => by cases same).imp ?_)
          rintro _ _ after ⟨rfl, -⟩
          exact .pure rfl

private theorem reconcile_inStep (plain : client.IsPlain base)
    (portable : session.platform.IsPortable) (zone : Url.isSegment zoneId.toList = true)
    (wanted : desired.isPortable = true) :
    Session.InStep Store.answer client.served runId now (desired.reconcile zoneId)
      (desired.reconcile zoneId) session fun outcome outcome' _ => outcome' = outcome := by
  refine .bind ((locate_inStep plain portable zone).imp ?_)
  rintro _ found middle ⟨rfl, portable, segment⟩
  cases found with
  | none => exact .bind (.record fun logbook => .pure rfl)
  | some containerId =>
    have container := segment containerId rfl
    have asked : (Call.fetchContainer zoneId containerId).IsPortable :=
      ⟨by simp [Call.identifiers, zone, container], trivial⟩
    refine .bind ((Client.request_inStep plain portable asked
      fun _ _ _ same => by cases same).imp ?_)
    rintro snapshot _ after ⟨rfl, fetched, platform, portable⟩
    have seen := Store.rulesAt_fetched fetched
    obtain ⟨held, -, here, rfl⟩ := Store.container?_fetched fetched
    rw [← platform] at seen here
    have ids := portable.ruleIds held (List.mem_of_find?_eq_some here)
    refine .bind ((settle_inStep plain portable zone container wanted seen ids).imp ?_)
    rintro outcome _ last rfl
    exact .bind (.record fun logbook => .pure rfl)

/-- Reconciling a rule through a client ends as it does on the platform itself: the platform and the
logbook are the same afterwards, and so is the outcome, or both runs fail alike. -/
theorem reconcile_agrees (plain : client.IsPlain base) (portable : session.platform.IsPortable)
    (zone : Url.isSegment zoneId.toList = true) (wanted : desired.isPortable = true)
    (runId : RunId) (now : Timestamp) :
    (Session.carryOut client.served runId now (desired.reconcile zoneId) session).2 =
        (Session.onStore runId now (desired.reconcile zoneId) session).2 ∧
      Likewise Eq (Session.onStore runId now (desired.reconcile zoneId) session).1
        (Session.carryOut client.served runId now (desired.reconcile zoneId) session).1 := by
  obtain ⟨same, likewise⟩ := reconcile_inStep plain portable zone wanted
  exact ⟨same, likewise.imp fun outcome outcome' _ equal => equal.symm⟩

section Located

variable {held : Container} (serves : session.platform.serving? zoneId desired.category.phase =
    some held) (available : session.platform.failing = [])

include serves available

private theorem locate_served (plain : client.IsPlain base)
    (zone : Url.isSegment zoneId.toList = true) :
    Session.carryOut client.served runId now (desired.locate zoneId) session =
      (.ok (some held.summary.id), session.logged (.listContainers zoneId)) := by
  have asked : (Call.listContainers zoneId).IsPortable :=
    ⟨List.forall_mem_singleton.mpr zone, trivial⟩
  have answered : Store.answer (.listContainers zoneId) session.platform =
      (.ok ((session.platform.containers.filter (·.zoneId == zoneId)).map (·.summary)),
        session.platform.logged (.listContainers zoneId)) :=
    Store.answer_available available _
  have listed : client.served (.listContainers zoneId) session.platform =
      Store.answer (.listContainers zoneId) session.platform := by
    rw [Client.served_eq plain asked, answered]
    exact Prod.ext (Client.reply_containers zoneId _) rfl
  have requested : Session.carryOut client.served runId now
      (Procedure.request (.listContainers zoneId)) session =
        (.ok ((session.platform.containers.filter (·.zoneId == zoneId)).map (·.summary)),
          session.logged (.listContainers zoneId)) := by
    rw [Session.carryOut_request, listed, answered]
    rfl
  have found : Session.carryOut client.served runId now
      (Procedure.findContainer zoneId desired.category.phase) session =
        (.ok (some held.summary), session.logged (.listContainers zoneId)) := by
    unfold Procedure.findContainer
    rw [Session.carryOut_bind, requested, ← Option.map_some, ← serves, ← Store.select?_summaries]
    rfl
  unfold locate
  cases desired.body with
  | none =>
    simp only
    rw [Session.carryOut_bind, found]
    rfl
  | some body =>
    simp only
    unfold Procedure.ensureContainer
    rw [Session.carryOut_bind, Session.carryOut_bind, found]
    rfl

private theorem reconcile_served (plain : client.IsPlain base)
    (zone : Url.isSegment zoneId.toList = true)
    (container : Url.isSegment held.summary.id.toList = true)
    (here : session.platform.container? zoneId held.summary.id = some held) :
    Session.carryOut client.served runId now (desired.reconcile zoneId) session =
      Session.carryOut client.served runId now (do
          let snapshot ← Procedure.lift (Client.resultOf
            (.fetchContainer zoneId held.summary.id) Snapshot.ofJson?
            (Http.Server.success held.snapshot.json))
          let outcome ← desired.settle zoneId held.summary.id snapshot
          Procedure.record (desired.decision zoneId (some held.summary.id) outcome)
          return outcome)
        ((session.logged (.listContainers zoneId)).logged
          (.fetchContainer zoneId held.summary.id)) := by
  have asked : (Call.fetchContainer zoneId held.summary.id).IsPortable :=
    ⟨by simp [Call.identifiers, zone, container], trivial⟩
  have answered : Store.answer (.fetchContainer zoneId held.summary.id)
      (session.platform.logged (.listContainers zoneId)) =
        (.ok held.snapshot, (session.platform.logged (.listContainers zoneId)).logged
          (.fetchContainer zoneId held.summary.id)) := by
    have here' : ((session.platform.logged (.listContainers zoneId)).logged
        (.fetchContainer zoneId held.summary.id)).container? zoneId held.summary.id =
          some held := here
    rw [← Store.perform_fetchContainer here']
    exact @Store.answer_available (session.platform.logged (.listContainers zoneId)) available _
  have fetched := Client.served_eq plain asked (session.platform.logged (.listContainers zoneId))
  rw [answered] at fetched
  have requested : Session.carryOut client.served runId now
      (Procedure.request (.fetchContainer zoneId held.summary.id))
      (session.logged (.listContainers zoneId)) =
        (Client.resultOf (.fetchContainer zoneId held.summary.id) Snapshot.ofJson?
          (Http.Server.success held.snapshot.json),
          (session.logged (.listContainers zoneId)).logged
            (.fetchContainer zoneId held.summary.id)) := by
    rw [Session.carryOut_request]
    exact congrArg (fun answered => (answered.1, { session with platform := answered.2 })) fetched
  unfold reconcile
  rw [Session.carryOut_bind, locate_served serves available plain zone]
  simp only
  rw [Session.carryOut_bind, Session.carryOut_bind, requested, Session.carryOut_lift]

end Located

/-- A client of a server on the same host. -/
def sampleClient : Client := ⟨"http://[::1]", "Bearer token", 1⟩

private theorem plain_sampleClient : ∃ base, sampleClient.IsPlain base := by
  refine ⟨_, by decide, rfl, ?_, ?_, ?_⟩ <;> decide +kernel

/-- An array within arrays. -/
def nested : Nat → Value
  | 0 => .array []
  | depth + 1 => .array [nested depth]

def sampleContainer (action : Action) (parameters : Option Value) : Container :=
  { Store.provisioned "zone" "ruleset" .firewall "zone" with
    rules := [{
      id := "rule"
      tag := "black_ip_a.io"
      expression := "e"
      action := action
      enabled := true
      parameters := parameters
      logging := none }] }

def sampleHeld (action : Action) (parameters : Option Value) : Session Store :=
  ⟨{ Store.empty with containers := [sampleContainer action parameters] }, .empty "journal"⟩

/-- The rule is to block and to have parameters. -/
def sampleWanted (parameters : Option Value) : DesiredRule :=
  ⟨.blacklist, "a.io", some ⟨.block, "e", true, parameters, none⟩⟩

/-- How the rule is reconciled with the answers of a platform. -/
def sampleRun (answers : Session.Answers Store) (action : Action)
    (held wanted : Option Value) : Except Error Outcome × Session Store :=
  Session.carryOut answers default default ((sampleWanted wanted).reconcile "zone")
    (sampleHeld action held)

/-- A rule that skips and has no parameters is to block and to have some. -/
theorem reconcile_agrees_sample :
    ((∃ base, sampleClient.IsPlain base) ∧ (sampleHeld .skip none).platform.IsPortable ∧
      Url.isSegment "zone".toList = true ∧
      (sampleWanted (Value.ofText? "[0.5]")).isPortable = true) ∧
    (sampleRun Store.answer .skip none (Value.ofText? "[0.5]")).1.toOption =
      some (.patched "rule") ∧
    (sampleRun sampleClient.served .skip none (Value.ofText? "[0.5]")).2 =
        (sampleRun Store.answer .skip none (Value.ofText? "[0.5]")).2 ∧
      Likewise Eq (sampleRun Store.answer .skip none (Value.ofText? "[0.5]")).1
        (sampleRun sampleClient.served .skip none (Value.ofText? "[0.5]")).1 := by
  have portable : (sampleHeld .skip none).platform.IsPortable :=
    ⟨by decide +kernel, by decide +kernel, by decide +kernel⟩
  have zone : Url.isSegment "zone".toList = true := by decide
  have wanted : (sampleWanted (Value.ofText? "[0.5]")).isPortable = true := by decide +kernel
  have ends : (sampleRun Store.answer .skip none (Value.ofText? "[0.5]")).1.toOption =
      some (.patched "rule") := by
    decide +kernel
  obtain ⟨base, plain⟩ := plain_sampleClient
  exact ⟨⟨⟨base, plain⟩, portable, zone, wanted⟩, ends,
    reconcile_agrees plain portable zone wanted default default⟩

/-- How the run on the platform itself ends, and how the one through the client. -/
def sampleEnds (action : Action) (held wanted : Option Value) :
    Option Outcome × Option Outcome :=
  ((sampleRun Store.answer action held wanted).1.toOption,
    (sampleRun sampleClient.served action held wanted).1.toOption)

private theorem sampleRun_served (action : Action) (held wanted : Option Value) :
    sampleRun sampleClient.served action held wanted =
      Session.carryOut sampleClient.served default default (do
          let snapshot ← Procedure.lift (Client.resultOf (.fetchContainer "zone" "ruleset")
            Snapshot.ofJson? (Http.Server.success (sampleContainer action held).snapshot.json))
          let outcome ← (sampleWanted wanted).settle "zone" "ruleset" snapshot
          Procedure.record ((sampleWanted wanted).decision "zone" (some "ruleset") outcome)
          return outcome)
        (((sampleHeld action held).logged (.listContainers "zone")).logged
          (.fetchContainer "zone" "ruleset")) := by
  have zone : Url.isSegment "zone".toList = true := by decide
  have container : Url.isSegment "ruleset".toList = true := by decide
  obtain ⟨base, plain⟩ := plain_sampleClient
  exact @reconcile_served sampleClient base _ _ _ "zone" (sampleWanted wanted)
    (sampleContainer action held) rfl rfl plain zone container rfl

/-- The text of the number is not read as the number, a response is nested deeper than the
parameters in it, and an action is not always the one that its name reads as. -/
theorem not_reconcile_agrees :
    (∀ action held tag, (sampleHeld action held).platform.Once tag) ∧
    sampleEnds .block (Value.ofText? "5e32") (Value.ofText? "5.0000000000000004e32") =
      (some (.patched "rule"), some (.unchanged (some "rule"))) ∧
    sampleEnds .block (some (nested 123)) (some (nested 123)) =
      (some (.unchanged (some "rule")), none) ∧
    sampleEnds (.other "block") none none =
      (some (.patched "rule"), some (.unchanged (some "rule"))) := by
  refine ⟨fun action held tag => ?_, ?_, ?_, ?_⟩
  · exact List.forall_mem_singleton.mpr (List.length_filter_le _ _)
  all_goals
    unfold sampleEnds
    rw [sampleRun_served, Client.resultOf_success]
    decide +kernel

end DesiredRule

end EdgePolicy
