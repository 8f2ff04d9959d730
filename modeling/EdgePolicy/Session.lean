import EdgePolicy.Journal.Logbook
import EdgePolicy.Zone.Procedure
import EdgePolicy.Zone.Store

/-
Sessions: procedures carried out one after the other on one platform with one logbook.

The state of the platform is a parameter; `Session.onStore` is the case of a platform held in
memory.
-/

set_option autoImplicit false
set_option relaxedAutoImplicit false

namespace EdgePolicy

/-- A platform and the logbook of what is done on it. -/
structure Session (σ : Type) where
  platform : σ
  logbook : Logbook
deriving Repr

namespace Session

abbrev Answers (σ : Type) : Type := (call : Call) → σ → Except Error call.Reply × σ

/-- Answer the calls and record the decisions of one run. -/
def handler {σ : Type} (answers : Answers σ) (runId : RunId) (now : Timestamp) :
    Procedure.Handler (StateM (Session σ)) where
  answer call session :=
    let (reply, platform) := answers call session.platform
    (reply, { session with platform })
  record decision session :=
    let (recorded, logbook) := session.logbook.record runId now decision
    (recorded, { session with logbook })

def carryOut {σ α : Type} (answers : Answers σ) (runId : RunId) (now : Timestamp)
    (procedure : Procedure α) (session : Session σ) : Except Error α × Session σ :=
  (procedure.run (handler answers runId now)).run session

/-- Carry out a procedure on a platform held in memory. -/
def onStore {α : Type} (runId : RunId) (now : Timestamp) (procedure : Procedure α)
    (session : Session Store) : Except Error α × Session Store :=
  carryOut Store.answer runId now procedure session

end Session

end EdgePolicy
