import EdgePolicy.Proofs.Zone.Run
import EdgePolicy.Proofs.Zone.Traits

/-
Procedures that record nothing.

A procedure is silent when no path of its tree notes a decision.  What is done about an entry is
silent up to its end, where the decision is recorded.
-/

set_option autoImplicit false
set_option relaxedAutoImplicit false

namespace EdgePolicy

def Procedure.Silent {α : Type} : Procedure α → Prop
  | .done _ => True
  | .ask _ next => ∀ answer, (next answer).Silent
  | .note _ _ => False

namespace Procedure.Silent

theorem bind {α β : Type} {procedure : Procedure α} {f : α → Procedure β}
    (first : procedure.Silent) (second : ∀ value, (f value).Silent) :
    (procedure >>= f).Silent := by
  induction procedure with
  | done result =>
    cases result with
    | ok value => exact second value
    | error fault => exact trivial
  | ask call next ih => exact fun answer => ih answer (first answer)
  | note decision next => exact first.elim

def trait : Trait where
  Has := Silent
  admits _ := True
  endsIn _ := True
  value _ := trivial
  fault _ _ := trivial
  request _ _ := trivial
  attempt _ _ := trivial
  bind := bind

theorem locate (desired : DesiredRule) (zoneId : String) : (desired.locate zoneId).Silent :=
  trait.locate trivial trivial trivial

theorem settle (desired : DesiredRule) (zoneId containerId : String) (snapshot : Snapshot) :
    (desired.settle zoneId containerId snapshot).Silent :=
  trait.settle (fun _ _ => trivial) fun _ _ => trivial

end Procedure.Silent

namespace Session

variable {α : Type} {runId : RunId} {now : Timestamp} {session : Session Store}

private theorem logbook_of_silent {procedure : Procedure α} (silent : procedure.Silent) :
    (onStore runId now procedure session).2.logbook = session.logbook := by
  induction procedure generalizing session with
  | done result => rfl
  | ask call next ih => exact ih _ (silent _)
  | note decision next => exact silent.elim

namespace Leads

theorem silent {procedure : Procedure α} {post : Except Error α → Session Store → Prop}
    (leads : Leads runId now procedure session post) (silent : procedure.Silent) :
    Leads runId now procedure session fun result after =>
      post result after ∧ after.logbook = session.logbook :=
  ⟨leads, logbook_of_silent silent⟩

end Leads

end Session

end EdgePolicy
