import EdgePolicy.Proofs.Zone.Replies
import EdgePolicy.Session

/-
Following a procedure on a platform held in memory.

`Leads` says what holds of the result of a procedure and of the session after it.  It has one rule
for each way a procedure is built, so a procedure is followed along its text; the rules for calls
say what the platform answers and what it becomes, whether or not the operation is failing.
-/

set_option autoImplicit false
set_option relaxedAutoImplicit false

namespace EdgePolicy

namespace Session

section

variable {σ α β : Type} (answers : Answers σ) (runId : RunId) (now : Timestamp)

theorem carryOut_note (decision : Decision) (next : Procedure α) (session : Session σ) :
    carryOut answers runId now (.note decision next) session =
      match session.logbook.record runId now decision with
      | (.ok (), logbook) => carryOut answers runId now next { session with logbook }
      | (.error fault, logbook) => (.error fault, { session with logbook }) := by
  rcases found : session.logbook.record runId now decision with ⟨recorded, logbook⟩
  have step : ((handler answers runId now).record decision).run session =
      (recorded, { session with logbook }) := by
    show ((session.logbook.record runId now decision).1,
      { session with logbook := (session.logbook.record runId now decision).2 }) = _
    rw [found]
  unfold carryOut
  rw [Procedure.run, StateT.run_bind, step]
  cases recorded <;> rfl

theorem carryOut_bind (procedure : Procedure α) (f : α → Procedure β) (session : Session σ) :
    carryOut answers runId now (procedure >>= f) session =
      match carryOut answers runId now procedure session with
      | (.ok a, middle) => carryOut answers runId now (f a) middle
      | (.error fault, middle) => (.error fault, middle) := by
  induction procedure generalizing session with
  | done result => cases result <;> rfl
  | ask call next ih => exact ih _ _
  | note decision next ih =>
    show carryOut answers runId now (.note decision (next >>= f)) session = _
    rw [carryOut_note, carryOut_note]
    rcases session.logbook.record runId now decision with ⟨recorded, logbook⟩
    cases recorded with
    | ok done => exact ih _
    | error fault => rfl

/-- What a procedure leads to from a session, whoever answers. -/
def Follows (procedure : Procedure α) (session : Session σ)
    (post : Except Error α → Session σ → Prop) : Prop :=
  post (carryOut answers runId now procedure session).1
    (carryOut answers runId now procedure session).2

end

namespace Follows

variable {σ α β : Type} {answers : Answers σ} {runId : RunId} {now : Timestamp}
  {session : Session σ}

theorem imp {procedure : Procedure α} {post post' : Except Error α → Session σ → Prop}
    (follows : Follows answers runId now procedure session post)
    (weaker : ∀ result after, post result after → post' result after) :
    Follows answers runId now procedure session post' :=
  weaker _ _ follows

theorem done {result : Except Error α} {post : Except Error α → Session σ → Prop}
    (holds : post result session) : Follows answers runId now (.done result) session post :=
  holds

theorem bind {procedure : Procedure α} {f : α → Procedure β}
    {post : Except Error β → Session σ → Prop}
    (follows : Follows answers runId now procedure session fun result after =>
      match result with
      | .ok value => Follows answers runId now (f value) after post
      | .error fault => post (.error fault) after) :
    Follows answers runId now (procedure >>= f) session post := by
  unfold Follows at follows ⊢
  rw [carryOut_bind]
  rcases reached : carryOut answers runId now procedure session with ⟨result, after⟩
  rw [reached] at follows
  cases result with
  | ok value => exact follows
  | error fault => exact follows

theorem request {call : Call} {post : Except Error call.Reply → Session σ → Prop}
    (answered : post (answers call session.platform).1
      { session with platform := (answers call session.platform).2 }) :
    Follows answers runId now (Procedure.request call) session post :=
  answered

theorem attempt {call : Call} {post : Except Error (Except Error call.Reply) → Session σ → Prop}
    (answered : post (.ok (answers call session.platform).1)
      { session with platform := (answers call session.platform).2 }) :
    Follows answers runId now (Procedure.attempt call) session post :=
  answered

theorem record {decision : Decision} {post : Except Error Unit → Session σ → Prop}
    (recorded : ∀ logbook : Logbook, session.logbook.available = true → logbook.available = true →
      post (.ok ()) { session with logbook })
    (refused : ∀ fault, session.logbook.available = false → post (.error fault) session) :
    Follows answers runId now (Procedure.record decision) session post := by
  unfold Follows Procedure.record
  rw [carryOut_note]
  unfold Logbook.record
  cases available : session.logbook.available with
  | true => exact recorded _ available rfl
  | false => exact refused _ available

end Follows

section

variable {α β : Type} (runId : RunId) (now : Timestamp)

theorem onStore_note (decision : Decision) (next : Procedure α) (session : Session Store) :
    onStore runId now (.note decision next) session =
      match session.logbook.record runId now decision with
      | (.ok (), logbook) => onStore runId now next { session with logbook }
      | (.error fault, logbook) => (.error fault, { session with logbook }) :=
  carryOut_note Store.answer runId now decision next session

theorem onStore_bind (procedure : Procedure α) (f : α → Procedure β) (session : Session Store) :
    onStore runId now (procedure >>= f) session =
      match onStore runId now procedure session with
      | (.ok a, middle) => onStore runId now (f a) middle
      | (.error fault, middle) => (.error fault, middle) := by
  unfold onStore
  rw [carryOut_bind]
  rcases carryOut Store.answer runId now procedure session with ⟨result, middle⟩
  cases result <;> rfl

private theorem onStore_fixed (procedure : Procedure α) (session : Session Store) :
    (onStore runId now procedure session).2.platform.zones = session.platform.zones ∧
      (onStore runId now procedure session).2.platform.failing = session.platform.failing := by
  induction procedure generalizing session with
  | done result => exact ⟨rfl, rfl⟩
  | ask call next ih =>
    obtain ⟨zones, failing⟩ := Store.answer_fixed call session.platform
    obtain ⟨zones', failing'⟩ := ih (Store.answer call session.platform).1
      { session with platform := (Store.answer call session.platform).2 }
    exact ⟨zones'.trans zones, failing'.trans failing⟩
  | note decision next ih =>
    rw [onStore_note]
    rcases session.logbook.record runId now decision with ⟨recorded, logbook⟩
    cases recorded with
    | ok done => exact ih _
    | error fault => exact ⟨rfl, rfl⟩

end

/-- What a procedure leads to from a session. -/
def Leads {α : Type} (runId : RunId) (now : Timestamp) (procedure : Procedure α)
    (session : Session Store) (post : Except Error α → Session Store → Prop) : Prop :=
  post (onStore runId now procedure session).1 (onStore runId now procedure session).2

def logged (session : Session Store) (call : Call) : Session Store :=
  { session with platform := session.platform.logged call }

namespace Leads

variable {α β : Type} {runId : RunId} {now : Timestamp} {session : Session Store}

theorem imp {procedure : Procedure α} {post post' : Except Error α → Session Store → Prop}
    (leads : Leads runId now procedure session post)
    (weaker : ∀ result after, post result after → post' result after) :
    Leads runId now procedure session post' :=
  weaker _ _ leads

theorem and {procedure : Procedure α} {post post' : Except Error α → Session Store → Prop}
    (first : Leads runId now procedure session post)
    (second : Leads runId now procedure session post') :
    Leads runId now procedure session fun result after => post result after ∧ post' result after :=
  And.intro first second

theorem elim {procedure : Procedure α} {post : Except Error α → Session Store → Prop}
    (leads : Leads runId now procedure session post) {result : Except Error α}
    {after : Session Store} (reached : onStore runId now procedure session = (result, after)) :
    post result after := by
  unfold Leads at leads
  rwa [reached] at leads

theorem fixed (procedure : Procedure α) :
    Leads runId now procedure session fun _ after =>
      after.platform.zones = session.platform.zones ∧
        after.platform.failing = session.platform.failing :=
  onStore_fixed runId now procedure session

theorem done {result : Except Error α} {post : Except Error α → Session Store → Prop}
    (holds : post result session) : Leads runId now (.done result) session post :=
  holds

theorem pure {value : α} {post : Except Error α → Session Store → Prop}
    (holds : post (.ok value) session) :
    Leads runId now (Pure.pure value : Procedure α) session post :=
  holds

theorem bind {procedure : Procedure α} {f : α → Procedure β}
    {post : Except Error β → Session Store → Prop}
    (leads : Leads runId now procedure session fun result after =>
      match result with
      | .ok value => Leads runId now (f value) after post
      | .error fault => post (.error fault) after) :
    Leads runId now (procedure >>= f) session post :=
  Follows.bind leads

theorem attempt {call : Call} {post : Except Error (Except Error call.Reply) → Session Store → Prop}
    (refused : ∀ fault, call.operation ∈ session.platform.failing →
      post (.ok (.error fault)) (session.logged call))
    (answered : call.operation ∉ session.platform.failing →
      post (.ok (Store.perform call (session.logged call).platform).1)
        { session with platform := (Store.perform call (session.logged call).platform).2 }) :
    Leads runId now (Procedure.attempt call) session post :=
  Store.answer_cases (fun reply platform => post (.ok reply) { session with platform })
    refused answered

theorem request {call : Call} {post : Except Error call.Reply → Session Store → Prop}
    (refused : ∀ fault, call.operation ∈ session.platform.failing →
      post (.error fault) (session.logged call))
    (answered : call.operation ∉ session.platform.failing →
      post (Store.perform call (session.logged call).platform).1
        { session with platform := (Store.perform call (session.logged call).platform).2 }) :
    Leads runId now (Procedure.request call) session post :=
  Store.answer_cases (fun reply platform => post reply { session with platform })
    refused answered

theorem record {decision : Decision} {post : Except Error Unit → Session Store → Prop}
    (recorded : ∀ logbook : Logbook, session.logbook.available = true → logbook.available = true →
      post (.ok ()) { session with logbook })
    (refused : ∀ fault, session.logbook.available = false → post (.error fault) session) :
    Leads runId now (Procedure.record decision) session post :=
  Follows.record recorded refused

end Leads

end Session

end EdgePolicy
