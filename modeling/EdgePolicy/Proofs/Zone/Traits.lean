import EdgePolicy.Apply

/-
Traits of procedures.

A trait passes from the parts of a procedure to the whole.  Whether the procedures of an entry and of
a request have it is settled here once, by the calls that the trait admits and the faults that a
procedure may end in on its own.  Recording a decision is left to each trait, so what is said of a
list of entries is said under the assumption that every entry has the trait.
-/

set_option autoImplicit false
set_option relaxedAutoImplicit false

namespace EdgePolicy

/-- A trait of procedures that return, end in some faults, make some calls, or do so in sequence. -/
structure Procedure.Trait where
  Has : {α : Type} → Procedure α → Prop
  admits : Call → Prop
  endsIn : Error → Prop
  value : ∀ {α : Type} (result : α), Has (.done (.ok result))
  fault : ∀ {α : Type} (fault : Error), endsIn fault → Has (.done (.error fault) : Procedure α)
  request : ∀ {call : Call}, admits call → Has (Procedure.request call)
  attempt : ∀ {call : Call}, admits call → Has (Procedure.attempt call)
  bind : ∀ {α β : Type} {procedure : Procedure α} {f : α → Procedure β}, Has procedure →
    (∀ value, Has (f value)) → Has (procedure >>= f)

namespace Procedure.Trait

variable (trait : Trait) {desired : DesiredRule} {zoneId : String} {phase : Phase}

theorem lift {α : Type} {result : Except Error α}
    (ends : ∀ fault, result = .error fault → trait.endsIn fault) : trait.Has (.lift result) := by
  cases result with
  | ok value => exact trait.value value
  | error fault => exact trait.fault fault (ends fault rfl)

theorem findContainer (lists : trait.admits (.listContainers zoneId)) :
    trait.Has (Procedure.findContainer zoneId phase) :=
  trait.bind (trait.request lists) fun _ => trait.value _

theorem ensureContainer (lists : trait.admits (.listContainers zoneId))
    (creates : trait.admits (.createContainer zoneId phase))
    (missing : trait.endsIn (.containerMissing zoneId phase)) :
    trait.Has (Procedure.ensureContainer zoneId phase) := by
  refine trait.bind (trait.findContainer lists) fun found => ?_
  cases found with
  | some container => exact trait.value _
  | none =>
    refine trait.bind (trait.attempt creates) fun created => ?_
    cases created with
    | ok container => exact trait.value _
    | error fault =>
      refine trait.bind (trait.findContainer lists) fun found => ?_
      cases found with
      | some container => exact trait.value _
      | none => exact trait.fault _ missing

theorem locate (lists : trait.admits (.listContainers zoneId))
    (creates : trait.admits (.createContainer zoneId desired.category.phase))
    (missing : trait.endsIn (.containerMissing zoneId desired.category.phase)) :
    trait.Has (desired.locate zoneId) := by
  unfold DesiredRule.locate
  cases desired.body with
  | some body =>
    exact trait.bind (trait.ensureContainer lists creates missing) fun _ => trait.value _
  | none => exact trait.bind (trait.findContainer lists) fun _ => trait.value _

theorem settle {containerId : String} {snapshot : Snapshot}
    (changes : ∀ call : Call, call.operation.changesRule = true → trait.admits call)
    (several : ∀ fault, snapshot.tagged? desired.tag = .error fault → trait.endsIn fault) :
    trait.Has (desired.settle zoneId containerId snapshot) := by
  unfold DesiredRule.settle
  refine trait.bind (trait.lift several) fun tagged => ?_
  cases tagged with
  | none =>
    cases desired.body with
    | none => exact trait.value _
    | some body => exact trait.bind (trait.request (changes _ rfl)) fun _ => trait.value _
  | some rule =>
    cases desired.body with
    | none => exact trait.bind (trait.request (changes _ rfl)) fun _ => trait.value _
    | some body =>
      dsimp only
      split
      · exact trait.value _
      · exact trait.bind (trait.request (changes _ rfl)) fun _ => trait.value _

section Requests

variable (entry : ∀ (desired : DesiredRule) (zoneId : String), trait.Has (desired.reconcile zoneId))
  (resolves : ∀ zone, trait.admits (.resolveZone zone))

include entry

theorem reconcileAll (zoneId : String) (entries : List DesiredRule) :
    trait.Has (DesiredRule.reconcileAll zoneId entries) := by
  induction entries with
  | nil => exact trait.value _
  | cons desired rest ih =>
    exact trait.bind (entry desired zoneId) fun _ => trait.bind ih fun _ => trait.value _

include resolves

theorem converge (target : Subdomain) (rules : List DesiredRule) :
    trait.Has (target.converge rules) :=
  trait.bind (trait.request (resolves _)) fun zoneId =>
    trait.bind (trait.reconcileAll entry zoneId rules) fun _ => trait.value _

theorem convergeAll (planned : List (Subdomain × List DesiredRule)) :
    trait.Has (Subdomain.convergeAll planned) := by
  induction planned with
  | nil => exact trait.value _
  | cons first rest ih =>
    exact trait.bind (trait.converge entry resolves first.1 first.2) fun _ =>
      trait.bind ih fun _ => trait.value _

theorem apply {request : Request}
    (unplanned : ∀ fault, request.plan = .error fault → trait.endsIn fault) :
    trait.Has request.apply :=
  trait.bind (trait.lift unplanned) fun planned => trait.convergeAll entry resolves planned

end Requests

end Procedure.Trait

end EdgePolicy
