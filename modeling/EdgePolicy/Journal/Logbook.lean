import EdgePolicy.Error
import EdgePolicy.Journal.Chain

/-
A journal that may be out of reach.

While it is out of reach nothing can be recorded and no entry is lost.
-/

set_option autoImplicit false
set_option relaxedAutoImplicit false

namespace EdgePolicy

/-- A journal, and whether it can be written. -/
structure Logbook where
  journal : Journal
  available : Bool
deriving DecidableEq, Repr, Inhabited

namespace Logbook

def empty (id : String) : Logbook := ⟨.empty id, true⟩

def record (logbook : Logbook) (runId : RunId) (now : Timestamp) (decision : Decision) :
    Except Error Unit × Logbook :=
  if logbook.available then
    (.ok (), { logbook with journal := logbook.journal.append (decision.record runId now) })
  else (.error (.journal .unavailable), logbook)

end Logbook

end EdgePolicy
