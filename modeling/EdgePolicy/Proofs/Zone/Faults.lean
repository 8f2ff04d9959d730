import EdgePolicy.Proofs.Zone.Run
import EdgePolicy.Proofs.Zone.Traits

/-
Where the failures of a procedure come from.

A procedure fails with a fault of its own or hands on the fault of a call.  `FailsWith` says that,
whatever is answered, both are of a kind, and has one rule for each way a procedure is built.  The
faults of a platform held in memory are refusals of calls and zones that are not found.
-/

set_option autoImplicit false
set_option relaxedAutoImplicit false

namespace EdgePolicy

theorem Snapshot.tagged?_eq_error {snapshot : Snapshot} {tag : String} {fault : Error} :
    snapshot.tagged? tag = .error fault ↔
      2 ≤ (snapshot.rules.filter (·.tag == tag)).length ∧
        fault = .duplicateTag snapshot.id tag (snapshot.rules.filter (·.tag == tag)).length := by
  unfold tagged?
  generalize snapshot.rules.filter (·.tag == tag) = tagged
  match tagged with
  | [] => exact ⟨nofun, fun several => nomatch several.1⟩
  | [rule] => exact ⟨nofun, fun several => absurd several.1 (by simp)⟩
  | first :: second :: more =>
    exact ⟨fun refused => ⟨by simp, (Except.error.inj refused).symm⟩, fun several => several.2 ▸ rfl⟩

/-- Whatever is answered, a procedure fails with faults of a kind, provided that its calls do. -/
def Procedure.FailsWith {α : Type} (kind : Error → Prop) : Procedure α → Prop
  | .done (.ok _) => True
  | .done (.error fault) => kind fault
  | .ask _ next =>
    ∀ answer, (∀ fault, answer = .error fault → kind fault) → (next answer).FailsWith kind
  | .note _ next => next.FailsWith kind

namespace Procedure.FailsWith

variable {α β : Type} {kind : Error → Prop}

theorem value (result : α) : (Procedure.done (.ok result)).FailsWith kind := trivial

theorem done {result : Except Error α} (own : ∀ fault, result = .error fault → kind fault) :
    (Procedure.done result).FailsWith kind := by
  cases result with
  | ok result => exact trivial
  | error fault => exact own fault rfl

theorem request (call : Call) : (Procedure.request call).FailsWith kind :=
  fun _ given => done given

theorem attempt (call : Call) : (Procedure.attempt call).FailsWith kind := fun _ _ => trivial

theorem record (decision : Decision) : (Procedure.record decision).FailsWith kind := trivial

theorem bind {procedure : Procedure α} {f : α → Procedure β} (first : procedure.FailsWith kind)
    (second : ∀ value, (f value).FailsWith kind) : (procedure >>= f).FailsWith kind := by
  induction procedure with
  | done result =>
    cases result with
    | ok value => exact second value
    | error fault => exact first
  | ask call next ih => exact fun answer given => ih answer (first answer given)
  | note decision next ih => exact ih first

def trait (kind : Error → Prop) : Trait where
  Has := FailsWith kind
  admits _ := True
  endsIn := kind
  value := value
  fault _ own := own
  request _ := request _
  attempt _ := attempt _
  bind := bind

section Entries

variable (missing : ∀ zoneId phase, kind (.containerMissing zoneId phase))
  (several : ∀ containerId tag count, kind (.duplicateTag containerId tag count))

include missing several

theorem reconcile (desired : DesiredRule) (zoneId : String) :
    (desired.reconcile zoneId).FailsWith kind := by
  refine bind ((trait kind).locate trivial trivial (missing _ _)) fun located => ?_
  cases located with
  | none => exact bind (record _) fun _ => value _
  | some containerId =>
    have settled : ∀ snapshot : Snapshot,
        (desired.settle zoneId containerId snapshot).FailsWith kind := fun snapshot => by
      refine (trait kind).settle (fun _ _ => trivial) fun fault refused => ?_
      rw [(Snapshot.tagged?_eq_error.mp refused).2]
      exact several _ _ _
    exact bind (request _) fun snapshot => bind (settled snapshot) fun outcome =>
      bind (record _) fun _ => value _

theorem convergeAll (planned : List (Subdomain × List DesiredRule)) :
    (Subdomain.convergeAll planned).FailsWith kind :=
  (trait kind).convergeAll (reconcile missing several) (fun _ => trivial) planned

end Entries

end Procedure.FailsWith

/-- A fault that the platform itself reports. -/
inductive Error.OfPlatform : Error → Prop
  | remote (endpoint : String) (status : Option Nat) (cause : RemoteCause) :
      OfPlatform (.remote endpoint status cause)
  | zoneNotFound (zone : String) : OfPlatform (.zoneNotFound zone)

private theorem Store.answer_ofPlatform (call : Call) (store : Store) :
    ∀ fault, (answer call store).1 = .error fault → fault.OfPlatform := by
  intro fault failed
  rcases answer_fault failed with ⟨zone, -, rfl⟩ | ⟨path, status, cause, rfl, -⟩
  · exact .zoneNotFound zone
  · exact .remote path (some status) cause

namespace Session

variable {σ α : Type} {answers : Answers σ} {runId : RunId} {now : Timestamp}
  {kind : Error → Prop}

theorem Follows.fails {procedure : Procedure α} (fails : procedure.FailsWith kind)
    (answered : ∀ call state fault, (answers call state).1 = .error fault → kind fault)
    (unrecorded : ∀ fault, kind (.journal fault)) (session : Session σ) :
    Follows answers runId now procedure session fun result _ =>
      ∀ fault, result = .error fault → kind fault := by
  induction procedure generalizing session with
  | done result =>
    rintro fault rfl
    exact fails
  | ask call next ih => exact ih _ (fails _ (answered call session.platform)) _
  | note decision next ih =>
    unfold Follows
    rw [carryOut_note]
    cases available : session.logbook.available with
    | true =>
      rw [Logbook.record, if_pos available]
      exact ih fails _
    | false =>
      rw [Logbook.record, if_neg (Bool.eq_false_iff.mp available)]
      rintro fault ⟨⟩
      exact unrecorded .unavailable

theorem Leads.fails {procedure : Procedure α} (fails : procedure.FailsWith kind)
    (answered : ∀ fault : Error, fault.OfPlatform → kind fault)
    (unrecorded : ∀ fault, kind (.journal fault)) (session : Session Store) :
    Leads runId now procedure session fun result _ => ∀ fault, result = .error fault → kind fault :=
  Follows.fails fails
    (fun call store fault refused => answered fault (store.answer_ofPlatform call fault refused))
    unrecorded session

end Session

end EdgePolicy
