import EdgePolicy.Proofs.Zone.Silence

/-
The course that a procedure takes under given answers.

Besides its result and the state it ends in, a course has the decisions that were noted and the
changes of rules that were answered with success.  A procedure is candid when, whatever is answered,
the changes are those that its decisions tell.
-/

set_option autoImplicit false
set_option relaxedAutoImplicit false

namespace EdgePolicy

/-- A change of a rule of a container. -/
structure Change where
  zoneId : String
  containerId : String
  outcome : Outcome
deriving DecidableEq, Repr

/-- The change that a call has made when it is answered. -/
def Call.change? : (call : Call) → call.Reply → Option Change
  | resolveZone _, _ | listContainers _, _ | createContainer _ _, _ | fetchContainer _ _, _ => none
  | createRule zoneId containerId body, created =>
    some ⟨zoneId, containerId, .created created.id body.position⟩
  | patchRule zoneId containerId ruleId _, _ => some ⟨zoneId, containerId, .patched ruleId⟩
  | deleteRule zoneId containerId ruleId, _ => some ⟨zoneId, containerId, .deleted ruleId⟩

/-- The change that a decision tells. -/
def Decision.change? (decision : Decision) : Option Change :=
  if decision.outcome.isMutation then
    decision.containerId.map fun containerId => ⟨decision.zoneId, containerId, decision.outcome⟩
  else none

private theorem Call.change?_eq_none {call : Call} (reads : call.operation.changesRule = false)
    (reply : call.Reply) : call.change? reply = none := by
  cases call with
  | resolveZone | listContainers | createContainer | fetchContainer => rfl
  | createRule | patchRule | deleteRule => nomatch reads

structure Course (α σ : Type) where
  result : Except Error α
  decisions : List Decision
  changes : List Change
  state : σ

namespace Course

variable {α β σ : Type}

def behind (decisions : List Decision) (changes : List Change) (course : Course α σ) :
    Course α σ :=
  { course with
    decisions := decisions ++ course.decisions
    changes := changes ++ course.changes }

/-- Go on behind a course; a failure ends both. -/
def andThen (course : Course α σ) (f : α → σ → Course β σ) : Course β σ :=
  match course.result with
  | .ok value => (f value course.state).behind course.decisions course.changes
  | .error fault => { course with result := .error fault }

private theorem andThen_behind (decisions : List Decision) (changes : List Change)
    (course : Course α σ) (f : α → σ → Course β σ) :
    (course.behind decisions changes).andThen f = (course.andThen f).behind decisions changes := by
  obtain ⟨result, decisions', changes', state⟩ := course
  cases result with
  | ok value => simp only [andThen, behind, List.append_assoc]
  | error fault => rfl

end Course

namespace Procedure

variable {α β σ : Type}

/-- The course of a procedure from a state. -/
def course (answers : Session.Answers σ) : Procedure α → σ → Course α σ
  | .done result, state => ⟨result, [], [], state⟩
  | .ask call next, state =>
    ((next (answers call state).1).course answers (answers call state).2).behind []
      ((answers call state).1.toOption.bind call.change?).toList
  | .note decision next, state => (next.course answers state).behind [decision] []

theorem course_bind (answers : Session.Answers σ) (procedure : Procedure α) (f : α → Procedure β)
    (state : σ) :
    (procedure >>= f).course answers state =
      (procedure.course answers state).andThen fun value => (f value).course answers := by
  induction procedure generalizing state with
  | done result => cases result <;> rfl
  | ask call next ih =>
    have step : (Procedure.ask call next >>= f) = .ask call fun reply => next reply >>= f := rfl
    rw [step, course, course, ih, Course.andThen_behind]
  | note decision next ih =>
    have step : (Procedure.note decision next >>= f) = .note decision (next >>= f) := rfl
    rw [step, course, course, ih, Course.andThen_behind]

theorem course_request (answers : Session.Answers σ) (call : Call) (f : call.Reply → Procedure α)
    (state : σ) :
    (request call >>= f).course answers state =
      match answers call state with
      | (.ok reply, state') =>
        ((f reply).course answers state').behind [] (call.change? reply).toList
      | (.error fault, state') => ⟨.error fault, [], [], state'⟩ := by
  rcases answered : answers call state with ⟨reply, state'⟩
  have step : (request call >>= f) = .ask call fun reply => Procedure.done reply >>= f := rfl
  rw [step, course, answered]
  cases reply <;> rfl

theorem decisions_of_silent {procedure : Procedure α} (silent : procedure.Silent)
    (answers : Session.Answers σ) (state : σ) :
    (procedure.course answers state).decisions = [] := by
  induction procedure generalizing state with
  | done result => rfl
  | ask call next ih => exact ih _ (silent _) _
  | note decision next => exact silent.elim

/-- Whatever is answered, the changes that are made are those that the decisions tell. -/
structure Candid (procedure : Procedure α) : Prop where
  told : ∀ {σ : Type} (answers : Session.Answers σ) (state : σ),
    (procedure.course answers state).changes =
      (procedure.course answers state).decisions.filterMap Decision.change?

namespace Candid

theorem done (result : Except Error α) : (Procedure.done result).Candid := ⟨fun _ _ => rfl⟩

theorem ask {call : Call} {next : Except Error call.Reply → Procedure α}
    (reads : call.operation.changesRule = false) (candid : ∀ reply, (next reply).Candid) :
    (Procedure.ask call next).Candid := by
  refine ⟨fun answers state => ?_⟩
  have still : (answers call state).1.toOption.bind call.change? = none := by
    cases (answers call state).1 with
    | ok reply => exact Call.change?_eq_none reads reply
    | error fault => rfl
  rw [course, still]
  exact (candid _).told answers _

theorem bind {procedure : Procedure α} {f : α → Procedure β} (first : procedure.Candid)
    (second : ∀ value, (f value).Candid) : (procedure >>= f).Candid := by
  refine ⟨fun answers state => ?_⟩
  have changes := first.told answers state
  rw [course_bind, Course.andThen]
  cases (procedure.course answers state).result with
  | error fault => exact changes
  | ok value =>
    simp only [Course.behind, List.filterMap_append, changes]
    rw [(second value).told]

def trait : Trait where
  Has := Candid
  admits call := call.operation.changesRule = false
  endsIn _ := True
  value _ := done _
  fault _ _ := done _
  request reads := ask reads fun _ => done _
  attempt reads := ask reads fun _ => done _
  bind := bind

end Candid

end Procedure

end EdgePolicy
