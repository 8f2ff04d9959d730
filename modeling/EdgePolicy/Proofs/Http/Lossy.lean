import Mathlib.Data.List.Chain
import EdgePolicy.Http.Client
import EdgePolicy.Proofs.Zone.Answers
import EdgePolicy.Reconcile

/-
A connection that loses requests and responses.

An attempt may not reach the platform, or be carried out while its response is lost; either way it
is made once more while retries are left, whatever the call.  A call that creates a rule is carried
out twice then.  Apart from that no tag comes to be carried twice: between a creation and the look at
the container on which it rests nothing is changed.
-/

set_option autoImplicit false
set_option relaxedAutoImplicit false

namespace EdgePolicy

/-- What becomes of an attempt. -/
inductive Fate where
  | unreached
  | unanswered
  | answered
deriving DecidableEq, Repr

/-- A platform behind a connection, what becomes of the attempts to come, and the states that the
platform has passed through.  When no fates are left, nothing comes through any more. -/
structure Lossy where
  store : Store
  fates : List Fate
  passed : List Store

namespace Lossy

/-- The platform has carried out a call. -/
def reached (lossy : Lossy) (call : Call) : Lossy :=
  { lossy with
    store := (Store.answer call lossy.store).2
    passed := lossy.passed ++ [(Store.answer call lossy.store).2] }

/-- One attempt to make a call. -/
def once (call : Call) : StateM Lossy (Except RemoteCause (Except Error call.Reply)) :=
  fun lossy =>
    let later := { lossy with fates := lossy.fates.tail }
    match lossy.fates.head?.getD .unreached with
    | .unreached => (.error (.unsent call.path), later)
    | .unanswered => (.error (.unsent call.path), later.reached call)
    | .answered => (.ok (Store.answer call lossy.store).1, later.reached call)

/-- Make a call, with retries while nothing comes back. -/
def answer (maxRetries : Nat) (call : Call) : StateM Lossy (Except Error call.Reply) := do
  match ← Http.Retry.attempt (fun _ => pure ()) maxRetries (once call) with
  | .ok reply => return reply
  | .error cause => return .error (Http.Client.failure call none cause)

/-- Reconcile entries of zones, one after the other. -/
def reconcileEach (maxRetries : Nat) (session : Session Lossy)
    (entries : List (RunId × Timestamp × String × DesiredRule)) : Session Lossy :=
  entries.foldl (fun session (runId, now, zoneId, desired) =>
    (Session.carryOut (answer maxRetries) runId now (desired.reconcile zoneId) session).2) session

def Kept (call : Call) (inv : Store → List Store → Prop) : Prop :=
  ∀ store passed, inv store passed →
    inv (Store.answer call store).2 (passed ++ [(Store.answer call store).2])

section Exchange

variable {call : Call} {inv : Store → List Store → Prop}

def Comes (call : Call) (inv : Store → List Store → Prop) {ε : Type}
    (result : Except ε (Except Error call.Reply)) (after : Lossy) : Prop :=
  inv after.store after.passed ∧ ∀ reply, result = .ok reply →
    ∃ store passed, inv store passed ∧ reply = (Store.answer call store).1 ∧
      after.store = (Store.answer call store).2

private theorem once_comes (kept : Kept call inv) {lossy : Lossy}
    (holds : inv lossy.store lossy.passed) :
    Comes call inv (once call lossy).1 (once call lossy).2 := by
  unfold once
  cases lossy.fates.head?.getD .unreached with
  | unreached => exact ⟨holds, nofun⟩
  | unanswered => exact ⟨kept _ _ holds, nofun⟩
  | answered =>
    refine ⟨kept _ _ holds, fun reply same => ⟨lossy.store, lossy.passed, holds, ?_, rfl⟩⟩
    exact (Except.ok.inj same).symm

private theorem attempt_comes (kept : Kept call inv) (pause : Nat → StateM Lossy Unit)
    (still : ∀ milliseconds lossy, (pause milliseconds lossy).2 = lossy) (index retries : Nat)
    {lossy : Lossy} (holds : inv lossy.store lossy.passed) :
    Comes call inv (Http.Retry.attemptFrom pause (once call) index retries lossy).1
      (Http.Retry.attemptFrom pause (once call) index retries lossy).2 := by
  induction retries generalizing lossy index with
  | zero => exact once_comes kept holds
  | succ retries ih =>
    have first := once_comes kept holds
    rcases once : once call lossy with ⟨result, middle⟩
    rw [once] at first
    have unfolded : Http.Retry.attemptFrom pause (Lossy.once call) index (retries + 1) lossy =
        match result with
        | .ok value => (.ok value, middle)
        | .error _ => Http.Retry.attemptFrom pause (Lossy.once call) (index + 1) retries
            (pause (Http.Retry.delay index) middle).2 := by
      show (Http.Retry.attemptFrom pause (Lossy.once call) index (retries + 1)).run lossy = _
      rw [Http.Retry.attemptFrom, StateT.run_bind]
      have ran : (Lossy.once call).run lossy = (result, middle) := once
      rw [ran]
      cases result <;> rfl
    rw [unfolded]
    cases result with
    | ok value => exact first
    | error cause =>
      rw [still]
      exact ih _ first.1

private theorem answer_comes (kept : Kept call inv) (maxRetries : Nat) {lossy : Lossy}
    (holds : inv lossy.store lossy.passed) :
    inv (answer maxRetries call lossy).2.store (answer maxRetries call lossy).2.passed ∧
      ∀ value, (answer maxRetries call lossy).1 = .ok value → ∃ store passed, inv store passed ∧
        (Store.answer call store).1 = .ok value ∧
        (answer maxRetries call lossy).2.store = (Store.answer call store).2 := by
  have comes := attempt_comes kept (fun _ => pure ()) (fun _ _ => rfl) 0 maxRetries holds
  rcases attempted : Http.Retry.attemptFrom (fun _ => pure ()) (once call) 0 maxRetries lossy
    with ⟨result, after⟩
  rw [attempted] at comes
  have answered : answer maxRetries call lossy = match result with
      | .ok reply => (reply, after)
      | .error cause => (.error (Http.Client.failure call none cause), after) := by
    show (answer maxRetries call).run lossy = _
    unfold answer Http.Retry.attempt
    rw [StateT.run_bind]
    have ran : (Http.Retry.attemptFrom (fun _ => pure ()) (once call) 0 maxRetries).run lossy =
        (result, after) := attempted
    rw [ran]
    cases result <;> rfl
  rw [answered]
  cases result with
  | error cause => exact ⟨comes.1, nofun⟩
  | ok reply =>
    refine ⟨comes.1, fun value same => ?_⟩
    obtain ⟨store, passed, held, replied, became⟩ := comes.2 reply rfl
    exact ⟨store, passed, held, replied.symm.trans same, became⟩

end Exchange

/-- No two creations of a rule come in a row. -/
def Unrepeated (calls : List Call) : Prop :=
  calls.IsChain fun first second =>
    first.operation = .createRule → second.operation ≠ .createRule

/-- A platform that has received some calls, and on which no container has two rules with a tag, now
or before, unless a creation was repeated. -/
structure Sound (base : List Call) (tag : String) (store : Store) (passed : List Store) :
    Prop where
  wellFormed : store.WellFormed
  received : ∃ calls, store.calls = base ++ calls ∧
    (Unrepeated calls → store.Once tag ∧ ∀ earlier ∈ passed, earlier.Once tag)

/-- A call is safe unless it repeats a creation. -/
structure SafeNow (base : List Call) (tag : String) (call : Call) (store : Store)
    (passed : List Store) : Prop where
  sound : Sound base tag store passed
  safe : ∀ calls, store.calls = base ++ calls → Unrepeated (calls ++ [call]) → call.Safe store tag

section Runs

variable {base : List Call} {tag : String} {store : Store} {passed : List Store} {call : Call}

theorem SafeNow.reached (now : SafeNow base tag call store passed) :
    Sound base tag (Store.answer call store).2 (passed ++ [(Store.answer call store).2]) := by
  obtain ⟨⟨wellFormed, calls, received, once⟩, safe⟩ := now
  have answered := Store.answer_answered call store
  refine ⟨wellFormed.answered answered, calls ++ [call], ?_, fun unrepeated => ?_⟩
  · rw [Store.answer_calls, received, List.append_assoc]
  · obtain ⟨here, earlier⟩ := once unrepeated.left_of_append
    have after := here.answered (safe calls received unrepeated) answered
    exact ⟨after, List.forall_mem_append.mpr ⟨earlier, List.forall_mem_singleton.mpr after⟩⟩

private theorem kept_sound (call : Call) (safe : ∀ store, call.Safe store tag) :
    Kept call (Sound base tag) :=
  fun store _ sound => SafeNow.reached ⟨sound, fun _ _ _ => safe store⟩

private theorem kept_create {zoneId containerId : String} {body : RuleBody} :
    Kept (.createRule zoneId containerId body)
      (SafeNow base tag (.createRule zoneId containerId body)) := by
  intro store passed now
  refine ⟨now.reached, fun calls received unrepeated => ?_⟩
  obtain ⟨before, known, -⟩ := now.sound.received
  rw [Store.answer_calls, known, List.append_assoc] at received
  obtain rfl := List.append_cancel_left received
  rw [List.append_assoc] at unrepeated
  have twice := unrepeated.right_of_append
  exact absurd rfl (List.isChain_pair.mp twice rfl)

private theorem kept_patch {zoneId containerId ruleId : String} {body : RuleBody} :
    Kept (.patchRule zoneId containerId ruleId body) fun store passed =>
      Sound base tag store passed ∧
        (Call.patchRule zoneId containerId ruleId body).Safe store tag := by
  rintro store passed ⟨sound, safe⟩
  refine ⟨SafeNow.reached ⟨sound, fun _ _ _ => safe⟩, fun same rule member named => ?_⟩
  have answered := Store.answer_answered (.patchRule zoneId containerId ruleId body) store
  generalize (Store.answer (.patchRule zoneId containerId ruleId body) store).2 = after
    at answered member
  cases answered with
  | kept containers issued =>
    rw [Store.rulesAt_of_containers containers] at member
    exact safe same rule member named
  | patched front back old found shape containers issued =>
    rw [Store.rulesAt_of_containers containers, Store.rulesAt_withRules found,
      if_pos ⟨rfl, rfl⟩] at member
    have known := safe same rule
    rw [Store.rulesAt_of_container? found, shape] at known
    simp only [List.mem_append, List.mem_cons] at member known
    rcases member with inFront | rfl | inBack
    · exact known (.inl inFront) named
    · exact same
    · exact known (.inr (.inr inBack)) named

def SoundIn (base : List Call) (tag : String) (session : Session Lossy) : Prop :=
  Sound base tag session.platform.store session.platform.passed

variable {maxRetries : Nat} {runId : RunId} {now : Timestamp} {session : Session Lossy}
  {zoneId containerId : String}

private theorem request_sound (kept : Kept call (Sound base tag))
    (sound : SoundIn base tag session) :
    Session.Follows (answer maxRetries) runId now (Procedure.request call) session
      fun _ after => SoundIn base tag after :=
  .request (answer_comes kept maxRetries sound).1

private theorem attempt_sound (kept : Kept call (Sound base tag))
    (sound : SoundIn base tag session) :
    Session.Follows (answer maxRetries) runId now (Procedure.attempt call) session
      fun _ after => SoundIn base tag after :=
  .attempt (answer_comes kept maxRetries sound).1

private theorem find_sound {phase : Phase} (sound : SoundIn base tag session) :
    Session.Follows (answer maxRetries) runId now (Procedure.findContainer zoneId phase) session
      fun _ after => SoundIn base tag after := by
  refine .bind ((request_sound (kept_sound (.listContainers zoneId) fun _ => trivial) sound).imp
    fun result after sound => ?_)
  cases result <;> exact sound

private theorem ensure_sound {phase : Phase} (sound : SoundIn base tag session) :
    Session.Follows (answer maxRetries) runId now (Procedure.ensureContainer zoneId phase) session
      fun _ after => SoundIn base tag after := by
  refine .bind ((find_sound sound).imp fun result after sound => ?_)
  rcases result with fault | _ | found
  · exact sound
  · refine .bind ((attempt_sound (kept_sound (.createContainer zoneId phase) fun _ => trivial)
      sound).imp fun result after sound => ?_)
    rcases result with fault | fault | created
    · exact sound
    · refine .bind ((find_sound sound).imp fun result after sound => ?_)
      rcases result with fault | _ | found <;> exact sound
    · exact sound
  · exact sound

private theorem locate_sound {desired : DesiredRule} (sound : SoundIn base tag session) :
    Session.Follows (answer maxRetries) runId now (desired.locate zoneId) session
      fun _ after => SoundIn base tag after := by
  unfold DesiredRule.locate
  cases desired.body with
  | none =>
    refine .bind ((find_sound sound).imp fun result after sound => ?_)
    cases result <;> exact sound
  | some body =>
    refine .bind ((ensure_sound sound).imp fun result after sound => ?_)
    cases result <;> exact sound

private theorem fetch_sound (sound : SoundIn base tag session) :
    Session.Follows (answer maxRetries) runId now
      (Procedure.request (.fetchContainer zoneId containerId)) session fun result after =>
        SoundIn base tag after ∧ ∀ snapshot, result = .ok snapshot →
          after.platform.store.rulesAt zoneId containerId = snapshot.rules := by
  obtain ⟨sound', comes⟩ := answer_comes
    (kept_sound (.fetchContainer zoneId containerId) fun _ => trivial) maxRetries sound
  refine .request ⟨sound', fun snapshot same => ?_⟩
  obtain ⟨store, passed, -, replied, became⟩ := comes snapshot same
  rw [became]
  exact Store.rulesAt_fetched replied

private theorem settle_sound {desired : DesiredRule} {snapshot : Snapshot}
    (sound : SoundIn base tag session)
    (fetched : session.platform.store.rulesAt zoneId containerId = snapshot.rules) :
    Session.Follows (answer maxRetries) runId now (desired.settle zoneId containerId snapshot)
      session fun _ after => SoundIn base tag after := by
  unfold DesiredRule.settle Snapshot.tagged?
  rcases found : snapshot.rules.filter (·.tag == desired.tag) with _ | ⟨old, _ | ⟨second, more⟩⟩
  · rw [found]
    refine .bind (.done ?_)
    cases desired.body with
    | none => exact sound
    | some body =>
      have safe : SafeNow base tag (.createRule zoneId containerId (body.request desired.tag
          (desired.category.position? snapshot))) session.platform.store session.platform.passed :=
        ⟨sound, fun _ _ _ same => by rw [fetched, ← same]; exact found⟩
      have created := (answer_comes kept_create maxRetries safe).1.sound
      refine .bind (.request ?_)
      cases (answer maxRetries (.createRule zoneId containerId (body.request desired.tag
        (desired.category.position? snapshot))) session.platform).1 <;> exact created
  · rw [found]
    refine .bind (.done ?_)
    cases desired.body with
    | none =>
      refine .bind ((request_sound (kept_sound (.deleteRule zoneId containerId old.id)
        fun _ => trivial) sound).imp fun result after sound => ?_)
      cases result <;> exact sound
    | some body =>
      show Session.Follows _ _ _ (ite (body.matches old = true) _ _) _ _
      split
      · exact sound
      · have member : old ∈ snapshot.rules.filter (·.tag == desired.tag) :=
          found ▸ List.mem_singleton_self old
        rw [List.mem_filter, beq_iff_eq] at member
        -- The rule that is patched is the only one with its identifier.
        have safe : (Call.patchRule zoneId containerId old.id (body.request desired.tag none)).Safe
            session.platform.store tag := fun same rule here named => by
          have ids := Store.nodup_rulesAt sound.wellFormed zoneId containerId
          rw [fetched] at ids here
          obtain rfl := List.inj_on_of_nodup_map ids here member.1 named
          exact member.2.trans same
        have patched := (answer_comes kept_patch maxRetries ⟨sound, safe⟩).1.1
        refine .bind (.request ?_)
        cases (answer maxRetries (.patchRule zoneId containerId old.id
          (body.request desired.tag none)) session.platform).1 <;> exact patched
  · rw [found]
    exact .bind (.done sound)

private theorem record_sound {decision : Decision} {outcome : Outcome}
    (sound : SoundIn base tag session) :
    Session.Follows (answer maxRetries) runId now
      (do Procedure.record decision; return outcome) session fun _ after =>
        SoundIn base tag after :=
  .bind (.record (fun _ _ _ => sound) fun _ _ => sound)

private theorem reconcile_sound (desired : DesiredRule) (sound : SoundIn base tag session) :
    Session.Follows (answer maxRetries) runId now (desired.reconcile zoneId) session
      fun _ after => SoundIn base tag after := by
  unfold DesiredRule.reconcile
  refine .bind ((locate_sound sound).imp fun result after sound => ?_)
  rcases result with fault | _ | containerId
  · exact sound
  · exact record_sound sound
  · refine .bind ((fetch_sound sound).imp fun result after ⟨sound, fetched⟩ => ?_)
    cases result with
    | error fault => exact sound
    | ok snapshot =>
      refine .bind ((settle_sound sound (fetched snapshot rfl)).imp fun result after sound => ?_)
      cases result with
      | error fault => exact sound
      | ok outcome => exact record_sound sound

private theorem reconcileEach_sound (entries : List (RunId × Timestamp × String × DesiredRule))
    (sound : SoundIn base tag session) :
    SoundIn base tag (reconcileEach maxRetries session entries) := by
  induction entries generalizing session with
  | nil => exact sound
  | cons entry entries ih =>
    obtain ⟨runId, now, zoneId, desired⟩ := entry
    exact ih (reconcile_sound desired sound)

end Runs

/-- Whatever is lost on the way, and however often is tried again, no container comes to hold two
rules with a tag at any time, unless the platform carries out a creation twice in a row. -/
theorem reconcileEach_once {store : Store} (wellFormed : store.WellFormed) (fates : List Fate)
    (logbook : Logbook) (maxRetries : Nat)
    (entries : List (RunId × Timestamp × String × DesiredRule)) {after : Session Lossy}
    (ran : reconcileEach maxRetries ⟨⟨store, fates, []⟩, logbook⟩ entries = after)
    {calls : List Call} (received : after.platform.store.calls = store.calls ++ calls)
    (unrepeated : Unrepeated calls) {tag : String} (once : store.Once tag) :
    after.platform.store.Once tag ∧ ∀ state ∈ after.platform.passed, state.Once tag := by
  have start : SoundIn store.calls tag ⟨⟨store, fates, []⟩, logbook⟩ :=
    ⟨wellFormed, [], (List.append_nil _).symm, fun _ => ⟨once, List.forall_mem_nil _⟩⟩
  have sound : SoundIn store.calls tag (reconcileEach maxRetries _ entries) :=
    reconcileEach_sound entries start
  rw [ran] at sound
  obtain ⟨-, calls', received', sound⟩ := sound
  obtain rfl := List.append_cancel_left (received.symm.trans received')
  exact sound unrepeated

/-- A platform with one container, which holds no rule. -/
def sampleStore : Store :=
  { Store.empty with
    containers := [Store.provisioned "zone" s!"ruleset-{1}" .firewall "zone"]
    issued := 1 }

def sampleEntry : RunId × Timestamp × String × DesiredRule :=
  (default, default, "zone", ⟨.blacklist, "a.io", some ⟨.block, "", true, none, none⟩⟩)

/-- The entry is reconciled twice, while some attempts are lost. -/
def sampleRun (maxRetries : Nat) (fates : List Fate) : Session Lossy :=
  reconcileEach maxRetries ⟨⟨sampleStore, fates, []⟩, .empty "journal"⟩ [sampleEntry, sampleEntry]

private theorem wellFormed_sampleStore : sampleStore.WellFormed :=
  Store.wellFormed_empty.provisioned "zone" .firewall "zone" rfl rfl

private theorem once_sampleStore (tag : String) : sampleStore.Once tag :=
  List.forall_mem_singleton.mpr (Nat.zero_le _)

/-- The response to a look at the container is lost, and so is the request to create the rule. -/
theorem reconcileEach_once_sample :
    (sampleStore.WellFormed ∧ sampleStore.Once "black_ip_a.io" ∧
      Unrepeated (sampleRun 1 [.answered, .unanswered, .answered, .unreached, .answered, .answered,
        .answered]).platform.store.calls) ∧
    ∃ after, sampleRun 1 [.answered, .unanswered, .answered, .unreached, .answered, .answered,
        .answered] = after ∧
      after.platform.passed.length = 6 ∧ after.platform.store.Once "black_ip_a.io" ∧
      ∀ state ∈ after.platform.passed, state.Once "black_ip_a.io" := by
  have unrepeated : Unrepeated (sampleRun 1 [.answered, .unanswered, .answered, .unreached,
      .answered, .answered, .answered]).platform.store.calls := by
    unfold Unrepeated
    decide +kernel
  exact ⟨⟨wellFormed_sampleStore, once_sampleStore _, unrepeated⟩, _, rfl, by decide +kernel,
    reconcileEach_once wellFormed_sampleStore _ _ 1 [sampleEntry, sampleEntry] rfl rfl unrepeated
      (once_sampleStore _)⟩

/-- The rule is created, the response is lost, and the second attempt creates it again. -/
theorem not_reconcileEach_once :
    sampleStore.WellFormed ∧ (∀ tag, sampleStore.Once tag) ∧
      ¬ (sampleRun 1 [.answered, .answered, .unanswered, .answered]).platform.store.Once
        "black_ip_a.io" := by
  refine ⟨wellFormed_sampleStore, once_sampleStore, ?_⟩
  unfold Store.Once
  decide +kernel

end Lossy

end EdgePolicy
