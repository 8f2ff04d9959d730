import EdgePolicy.Proofs.Zone.Course

/-
Applying a request decides exactly what it changes (`Request.candid_apply`).

Whatever the platform answers, and whether or not the run fails, the changes of rules that were
answered with success are those that the decisions of the run tell, in the same order.
-/

set_option autoImplicit false
set_option relaxedAutoImplicit false

namespace EdgePolicy

open Procedure (Candid course_bind course_request decisions_of_silent Silent.settle)

namespace DesiredRule

private theorem settle_changes {σ : Type} (desired : DesiredRule) (zoneId containerId : String)
    (snapshot : Snapshot) (answers : Session.Answers σ) (state : σ) :
    match ((desired.settle zoneId containerId snapshot).course answers state).result with
    | .ok outcome => ((desired.settle zoneId containerId snapshot).course answers state).changes =
        (desired.decision zoneId (some containerId) outcome).change?.toList
    | .error _ =>
      ((desired.settle zoneId containerId snapshot).course answers state).changes = [] := by
  unfold settle
  rw [course_bind]
  cases snapshot.tagged? desired.tag with
  | error fault => exact rfl
  | ok rule? =>
    cases rule? with
    | none =>
      cases desired.body with
      | none => rfl
      | some body =>
        simp only [Procedure.lift, Procedure.course, Course.andThen]
        rw [course_request]
        rcases answers _ state with ⟨_ | _, _⟩ <;> rfl
    | some rule =>
      cases desired.body with
      | none =>
        simp only [Procedure.lift, Procedure.course, Course.andThen]
        rw [course_request]
        rcases answers _ state with ⟨_ | _, _⟩ <;> rfl
      | some body =>
        simp only [Procedure.lift, Procedure.course, Course.andThen]
        cases body.matches rule with
        | true => rfl
        | false =>
          simp only [Bool.false_eq_true, if_false]
          rw [course_request]
          rcases answers _ state with ⟨_ | _, _⟩ <;> rfl

private theorem candid_reconcile (desired : DesiredRule) (zoneId : String) :
    (desired.reconcile zoneId).Candid := by
  refine .bind (Candid.trait.locate rfl rfl trivial) fun containerId => ?_
  cases containerId with
  | none => exact ⟨fun _ _ => rfl⟩
  | some containerId =>
    refine .bind (.ask rfl fun _ => .done _) fun snapshot => ?_
    refine ⟨fun answers state => ?_⟩
    have silent := decisions_of_silent (Silent.settle desired zoneId containerId snapshot) answers
      state
    have changes := settle_changes desired zoneId containerId snapshot answers state
    rw [course_bind]
    generalize (desired.settle zoneId containerId snapshot).course answers state = settled at *
    obtain ⟨result, decisions, changed, state'⟩ := settled
    obtain rfl : decisions = [] := silent
    cases result with
    | error fault => exact changes
    | ok outcome =>
      obtain rfl : changed = (desired.decision zoneId (some containerId) outcome).change?.toList :=
        changes
      show (desired.decision zoneId (some containerId) outcome).change?.toList ++ [] =
        [desired.decision zoneId (some containerId) outcome].filterMap Decision.change?
      rw [List.append_nil, List.filterMap_cons]
      cases (desired.decision zoneId (some containerId) outcome).change? <;> rfl

end DesiredRule

/-- Whatever is answered, a request changes rules exactly as its decisions tell. -/
theorem Request.candid_apply (request : Request) : request.apply.Candid :=
  Candid.trait.apply DesiredRule.candid_reconcile (fun _ => rfl) fun _ _ => trivial

end EdgePolicy
