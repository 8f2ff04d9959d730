import EdgePolicy.Journal.Change
import EdgePolicy.Zone.Call

/-
Procedures: what is done on the platform, apart from the platform that does it.

A procedure is a tree.  Its inner nodes are calls, which branch by their answers, and decisions to
be recorded; its leaves are results.  `Procedure.run` follows one path of the tree with whatever
answers the calls and records the decisions; `run_bind` says that a sequence runs its parts one
after the other.
-/

set_option autoImplicit false
set_option relaxedAutoImplicit false

namespace EdgePolicy

inductive Procedure (α : Type) : Type where
  | done (result : Except Error α)
  | ask (call : Call) (next : Except Error call.Reply → Procedure α)
  | note (decision : Decision) (next : Procedure α)

namespace Procedure

/-- Go on with the result of a procedure; a failure ends both. -/
def bind {α β : Type} : Procedure α → (α → Procedure β) → Procedure β
  | done (.ok a), f => f a
  | done (.error e), _ => done (.error e)
  | ask call next, f => ask call fun answer => (next answer).bind f
  | note decision next, f => note decision (next.bind f)

instance : Monad Procedure where
  pure a := done (.ok a)
  bind := bind

def fail {α : Type} (error : Error) : Procedure α := done (.error error)

/-- The outcome of a computation that needs no platform. -/
def lift {α : Type} (result : Except Error α) : Procedure α := done result

/-- Make a call; its failure is the failure of the procedure. -/
def request (call : Call) : Procedure call.Reply := ask call done

/-- Make a call and go on with its answer, whether or not it failed. -/
def attempt (call : Call) : Procedure (Except Error call.Reply) :=
  ask call fun answer => done (.ok answer)

def record (decision : Decision) : Procedure Unit := note decision (done (.ok ()))

/-- What answers calls and records decisions. -/
structure Handler (m : Type → Type) where
  answer : (call : Call) → m (Except Error call.Reply)
  record : Decision → m (Except Error Unit)

/-- Carry out a procedure.  It ends when a decision cannot be recorded. -/
def run {m : Type → Type} [Monad m] (handler : Handler m) {α : Type} :
    Procedure α → m (Except Error α)
  | done result => Pure.pure result
  | ask call next => do (next (← handler.answer call)).run handler
  | note decision next => do
    match ← handler.record decision with
    | .ok () => next.run handler
    | .error e => Pure.pure (.error e)

theorem run_bind {m : Type → Type} [Monad m] [LawfulMonad m] (handler : Handler m) {α β : Type}
    (procedure : Procedure α) (f : α → Procedure β) :
    (procedure.bind f).run handler = (procedure.run handler >>= fun
      | .ok a => (f a).run handler
      | .error e => Pure.pure (.error e)) := by
  induction procedure with
  | done result => cases result <;> simp [bind, run]
  | ask call next ih => simp [bind, run, ih]
  | note decision next ih =>
    simp only [bind, run, bind_assoc]
    congr
    funext recorded
    cases recorded <;> simp [ih]

def listRules (zoneId containerId : String) : Procedure (List RemoteRule) := do
  return (← request (.fetchContainer zoneId containerId)).rules

def findContainer (zoneId : String) (phase : Phase) : Procedure (Option ContainerSummary) := do
  return ContainerSummary.select? (← request (.listContainers zoneId)) phase

/-- The container of a zone for a phase, created if there is none.  A failed creation is made good
by a container that has appeared in the meantime. -/
def ensureContainer (zoneId : String) (phase : Phase) : Procedure String := do
  match ← findContainer zoneId phase with
  | some found => return found.id
  | none =>
    match ← attempt (.createContainer zoneId phase) with
    | .ok created => return created.id
    | .error _ =>
      match ← findContainer zoneId phase with
      | some found => return found.id
      | none => fail (.containerMissing zoneId phase)

end Procedure

end EdgePolicy
