import Mathlib.Logic.Relation
import EdgePolicy.Proofs.Zone.Run

/-
Runs that share one platform and one logbook.

A schedule lets the runs take turns; at its turn a run makes its next call or records its next
decision.  A run that goes by `Terms` is followed along its text like one that is alone
(`Session.Leads`), except that the others may act before each of its steps: what they do is what it
takes, what its own steps do is what it gives.  When each run gives the others what they take, every
run that has ended has ended as its terms say (`Concurrent.keeps`).
-/

set_option autoImplicit false
set_option relaxedAutoImplicit false

namespace EdgePolicy

/-- A run of a task: what it has still to do, and the platform before and after each call that it
has made. -/
structure Run (κ α : Type) where
  runId : RunId
  task : κ
  rest : Procedure α
  moves : List (Store × Store)

/-- What is left of a procedure after its decision was recorded, or could not be. -/
def Procedure.noted {α : Type} (next : Procedure α) : Except Error Unit → Procedure α
  | .ok () => next
  | .error fault => .done (.error fault)

/-- The next call of a run, or its next decision. -/
def Run.step {κ α : Type} (now : Timestamp) (session : Session Store) (run : Run κ α) :
    Session Store × Run κ α :=
  match run.rest with
  | .done _ => (session, run)
  | .ask call next =>
    let (reply, platform) := Store.answer call session.platform
    ({ session with platform },
      { run with rest := next reply, moves := run.moves ++ [(session.platform, platform)] })
  | .note decision next =>
    let (recorded, logbook) := session.logbook.record run.runId now decision
    ({ session with logbook }, { run with rest := next.noted recorded })

/-- Runs that share a session. -/
structure Concurrent (κ α : Type) where
  session : Session Store
  runs : List (Run κ α)

namespace Concurrent

/-- The tasks of the runs. -/
def tasks {κ α : Type} (state : Concurrent κ α) : List κ := state.runs.map (·.task)

def turn {κ α : Type} (state : Concurrent κ α) (turn : Nat × Timestamp) : Concurrent κ α :=
  match state.runs[turn.1]? with
  | none => state
  | some run =>
    let (session, run) := run.step turn.2 state.session
    ⟨session, state.runs.set turn.1 run⟩

/-- The turns of a schedule, one after the other. -/
def follow {κ α : Type} (schedule : List (Nat × Timestamp)) (state : Concurrent κ α) :
    Concurrent κ α :=
  schedule.foldl turn state

end Concurrent

/-- The terms on which runs go side by side: what a run takes from the others between its steps,
what each of its own steps gives them, and how it ends. -/
structure Terms (κ α : Type) where
  takes : κ → Session Store → Session Store → Prop
  gives : κ → Session Store → Session Store → Prop
  ends : κ → Except Error α → List (Store × Store) → Session Store → Prop

/-- The terms go together for some tasks: what a step of one of them gives is what the others
take. -/
structure Terms.Fair {κ α : Type} (terms : Terms κ α) (tasks : List κ) : Prop where
  refl : ∀ task session, terms.takes task session session
  trans : ∀ task before middle after, terms.takes task before middle →
    terms.takes task middle after → terms.takes task before after
  idle : ∀ task session, terms.gives task session session
  stable : ∀ task result moves before after, terms.ends task result moves before →
    terms.takes task before after → terms.ends task result moves after
  apart : ∀ (first second : Nat) (one other : κ), tasks[first]? = some one →
    tasks[second]? = some other → first ≠ second →
    ∀ before after, terms.gives one before after → terms.takes other before after

/-- A procedure that goes by some terms, whatever happens before each of its steps within what it
takes. -/
def Procedure.Guarded {α : Type} (runId : RunId) (takes gives : Session Store → Session Store → Prop)
    (ends : Except Error α → List (Store × Store) → Session Store → Prop) :
    Procedure α → List (Store × Store) → Session Store → Prop
  | done result, moves, session => ends result moves session
  | ask call next, moves, session => ∀ middle, takes session middle →
    gives middle { middle with platform := (Store.answer call middle.platform).2 } ∧
      (next (Store.answer call middle.platform).1).Guarded runId takes gives ends
        (moves ++ [(middle.platform, (Store.answer call middle.platform).2)])
        { middle with platform := (Store.answer call middle.platform).2 }
  | note decision next, moves, session => ∀ middle, takes session middle → ∀ now,
    gives middle { middle with logbook := (middle.logbook.record runId now decision).2 } ∧
      match (middle.logbook.record runId now decision).1 with
      | .ok () => next.Guarded runId takes gives ends moves
          { middle with logbook := (middle.logbook.record runId now decision).2 }
      | .error fault => ends (.error fault) moves
          { middle with logbook := (middle.logbook.record runId now decision).2 }

private theorem Procedure.bind_done {α : Type} (procedure : Procedure α) :
    (procedure >>= fun value => done (.ok value)) = procedure := by
  induction procedure with
  | done result => cases result <;> rfl
  | ask call next ih => exact congrArg (ask call) (funext ih)
  | note decision next ih => exact congrArg (note decision) ih

namespace Procedure.Guarded

variable {α β : Type} {runId : RunId} {takes gives : Session Store → Session Store → Prop}
  {moves : List (Store × Store)} {session : Session Store}

private theorem chain {procedure : Procedure α} {f : α → Procedure β}
    {ends : Except Error α → List (Store × Store) → Session Store → Prop}
    {ends' : Except Error β → List (Store × Store) → Session Store → Prop}
    (guarded : procedure.Guarded runId takes gives ends moves session)
    (goesOn : ∀ value moves after, ends (.ok value) moves after →
      (f value).Guarded runId takes gives ends' moves after)
    (breaksOff : ∀ fault moves after, ends (.error fault) moves after →
      ends' (.error fault) moves after) :
    (procedure >>= f).Guarded runId takes gives ends' moves session := by
  induction procedure generalizing moves session with
  | done result =>
    cases result with
    | ok value => exact goesOn value _ _ guarded
    | error fault => exact breaksOff fault _ _ guarded
  | ask call next ih =>
    intro middle taken
    exact ⟨(guarded middle taken).1, ih _ (guarded middle taken).2⟩
  | note decision next ih =>
    intro middle taken now
    obtain ⟨given, after⟩ := guarded middle taken now
    refine ⟨given, ?_⟩
    cases recorded : (middle.logbook.record runId now decision).1 with
    | ok done =>
      rw [recorded] at after
      exact ih after
    | error fault =>
      rw [recorded] at after
      exact breaksOff fault _ _ after

theorem imp {procedure : Procedure α}
    {ends ends' : Except Error α → List (Store × Store) → Session Store → Prop}
    (guarded : procedure.Guarded runId takes gives ends moves session)
    (weaker : ∀ result moves after, ends result moves after → ends' result moves after) :
    procedure.Guarded runId takes gives ends' moves session := by
  rw [← procedure.bind_done]
  exact guarded.chain (fun _ => weaker _) fun _ => weaker _

theorem bind {procedure : Procedure α} {f : α → Procedure β}
    {ends : Except Error β → List (Store × Store) → Session Store → Prop}
    (guarded : procedure.Guarded runId takes gives (fun result moves session =>
      match result with
      | .ok value => (f value).Guarded runId takes gives ends moves session
      | .error fault => ends (.error fault) moves session) moves session) :
    (procedure >>= f).Guarded runId takes gives ends moves session :=
  guarded.chain (fun _ _ _ => id) fun _ _ _ => id

theorem request {call : Call}
    {ends : Except Error call.Reply → List (Store × Store) → Session Store → Prop}
    (leads : ∀ middle now, takes session middle →
      Session.Leads runId now (Procedure.request call) middle fun reply after =>
        gives middle after ∧ ends reply (moves ++ [(middle.platform, after.platform)]) after) :
    (Procedure.request call).Guarded runId takes gives ends moves session :=
  fun middle taken => leads middle default taken

theorem record {decision : Decision}
    {ends : Except Error Unit → List (Store × Store) → Session Store → Prop}
    (leads : ∀ middle now, takes session middle →
      Session.Leads runId now (Procedure.record decision) middle fun recorded after =>
        gives middle after ∧ ends recorded moves after) :
    (Procedure.record decision).Guarded runId takes gives ends moves session := by
  intro middle taken now
  have recording := leads middle now taken
  unfold Session.Leads Procedure.record at recording
  rw [Session.onStore_note] at recording
  show gives middle { middle with logbook := _ } ∧ _
  rcases found : middle.logbook.record runId now decision with ⟨recorded, logbook⟩
  rw [found] at recording
  cases recorded <;> exact recording

theorem taken {procedure : Procedure α}
    {ends : Except Error α → List (Store × Store) → Session Store → Prop}
    (guarded : procedure.Guarded runId takes gives ends moves session)
    (trans : ∀ before middle after, takes before middle → takes middle after → takes before after)
    (stable : ∀ result moves before after, ends result moves before → takes before after →
      ends result moves after)
    {after : Session Store} (take : takes session after) :
    procedure.Guarded runId takes gives ends moves after := by
  cases procedure with
  | done result => exact stable _ _ _ _ guarded take
  | ask call next => exact fun middle more => guarded middle (trans _ _ _ take more)
  | note decision next => exact fun middle more => guarded middle (trans _ _ _ take more)

end Procedure.Guarded

section

variable {κ α : Type} {terms : Terms κ α} {session : Session Store} {run : Run κ α}

def Run.Guarded (terms : Terms κ α) (session : Session Store) (run : Run κ α) : Prop :=
  run.rest.Guarded run.runId (terms.takes run.task) (terms.gives run.task) (terms.ends run.task)
    run.moves session

private theorem Run.step_task (now : Timestamp) : (run.step now session).2.task = run.task := by
  unfold Run.step
  split <;> rfl

theorem Run.Guarded.step (guarded : run.Guarded terms session)
    (refl : terms.takes run.task session session) (idle : terms.gives run.task session session)
    (now : Timestamp) :
    terms.gives run.task session (run.step now session).1 ∧
      (run.step now session).2.Guarded terms (run.step now session).1 := by
  obtain ⟨runId, task, rest, moves⟩ := run
  cases rest with
  | done result => exact ⟨idle, guarded⟩
  | ask call next => exact guarded session refl
  | note decision next =>
    obtain ⟨given, after⟩ := guarded session refl now
    refine ⟨given, ?_⟩
    unfold Run.Guarded
    show Procedure.Guarded _ _ _ _
      (next.noted (session.logbook.record runId now decision).1) _ _
    cases recorded : (session.logbook.record runId now decision).1 with
    | ok done =>
      rw [recorded] at after
      exact after
    | error fault =>
      rw [recorded] at after
      exact after

end

namespace Concurrent

variable {κ α : Type} {terms : Terms κ α} {state : Concurrent κ α}

/-- All runs go by the terms of their tasks. -/
def Guarded (terms : Terms κ α) (state : Concurrent κ α) : Prop :=
  ∀ (index : Nat) (run : Run κ α), state.runs[index]? = some run → run.Guarded terms state.session

private theorem Guarded.turn (guarded : state.Guarded terms) (fair : terms.Fair state.tasks)
    (turn : Nat × Timestamp) :
    (state.turn turn).Guarded terms ∧ (state.turn turn).tasks = state.tasks ∧
      Relation.ReflTransGen (fun before after => ∃ task ∈ state.tasks, terms.gives task before after)
        state.session (state.turn turn).session := by
  obtain ⟨index, now⟩ := turn
  unfold Concurrent.turn
  cases here : state.runs[index]? with
  | none => exact ⟨guarded, rfl, .refl⟩
  | some run =>
    have task : state.tasks[index]? = some run.task := by
      rw [Concurrent.tasks, List.getElem?_map, here]
      rfl
    obtain ⟨given, goes⟩ := (guarded index run here).step (fair.refl _ _) (fair.idle _ _) now
    refine ⟨fun index' other there => ?_, ?_,
      .single ⟨run.task, List.mem_of_getElem? task, given⟩⟩
    · rw [List.getElem?_set] at there
      by_cases same : index = index'
      · rw [if_pos same] at there
        split at there
        · cases there
          exact goes
        · nomatch there
      · rw [if_neg same] at there
        have task' : state.tasks[index']? = some other.task := by
          rw [Concurrent.tasks, List.getElem?_map, there]
          rfl
        exact (guarded index' other there).taken (fair.trans _) (fair.stable _)
          (fair.apart index index' _ _ task task' same _ _ given)
    · refine List.ext_getElem? fun index' => ?_
      unfold Concurrent.tasks
      rw [List.getElem?_map, List.getElem?_map, List.getElem?_set]
      by_cases same : index = index'
      · subst same
        obtain ⟨bound, -⟩ := List.getElem?_eq_some_iff.mp here
        rw [if_pos rfl, if_pos bound, here, Option.map_some, Option.map_some, Run.step_task]
      · rw [if_neg same]

/-- Whatever the schedule, the runs go by their terms, and the session changes only by what their
steps give. -/
theorem Guarded.follow (guarded : state.Guarded terms) (fair : terms.Fair state.tasks)
    (schedule : List (Nat × Timestamp)) :
    (state.follow schedule).Guarded terms ∧ (state.follow schedule).tasks = state.tasks ∧
      Relation.ReflTransGen (fun before after => ∃ task ∈ state.tasks, terms.gives task before after)
        state.session (state.follow schedule).session := by
  induction schedule generalizing state with
  | nil => exact ⟨guarded, rfl, .refl⟩
  | cons turn schedule ih =>
    obtain ⟨guarded', same, given⟩ := guarded.turn fair turn
    obtain ⟨goes, same', given'⟩ := ih guarded' (same ▸ fair)
    rw [same] at same' given'
    exact ⟨goes, same', given.trans given'⟩

theorem follow_alone (runId : RunId) (now : Timestamp) (task : κ) (procedure : Procedure α)
    (moves : List (Store × Store)) (session : Session Store) :
    ∃ turns moves', Concurrent.follow (List.replicate turns (0, now))
        ⟨session, [⟨runId, task, procedure, moves⟩]⟩ =
      ⟨(Session.onStore runId now procedure session).2,
        [⟨runId, task, .done (Session.onStore runId now procedure session).1, moves'⟩]⟩ := by
  induction procedure generalizing session moves with
  | done result => exact ⟨0, moves, rfl⟩
  | ask call next ih =>
    obtain ⟨turns, moves', followed⟩ := ih (Store.answer call session.platform).1
      (moves ++ [(session.platform, (Store.answer call session.platform).2)])
      { session with platform := (Store.answer call session.platform).2 }
    exact ⟨turns + 1, moves', followed⟩
  | note decision next ih =>
    rw [Session.onStore_note]
    rcases found : session.logbook.record runId now decision with ⟨recorded, logbook⟩
    have noted : Concurrent.turn ⟨session, [⟨runId, task, .note decision next, moves⟩]⟩ (0, now) =
        ⟨{ session with logbook }, [⟨runId, task, next.noted recorded, moves⟩]⟩ := by
      show Concurrent.mk { session with logbook := (session.logbook.record runId now decision).2 }
        [⟨runId, task, next.noted (session.logbook.record runId now decision).1, moves⟩] = _
      rw [found]
    cases recorded with
    | ok done =>
      obtain ⟨turns, moves', followed⟩ := ih moves { session with logbook }
      refine ⟨turns + 1, moves', ?_⟩
      rw [List.replicate_succ, Concurrent.follow, List.foldl_cons, noted]
      exact followed
    | error fault =>
      refine ⟨1, moves, ?_⟩
      rw [List.replicate_one, Concurrent.follow, List.foldl_cons, noted]
      rfl

end Concurrent

end EdgePolicy
