import EdgePolicy.Apply
import EdgePolicy.Proofs.Zone.Progress

/-
What the entries of a request keep, the request keeps.

A request resolves the zones of its hosts and reconciles their entries, up to the first failure.  So
a property of sessions that is kept by a logged call and by every entry of the plan holds wherever
the request ends (`Request.apply_keeps`).
-/

set_option autoImplicit false
set_option relaxedAutoImplicit false

namespace EdgePolicy

open Session (Leads)

/-- An entry keeps a property of sessions, whether or not it succeeds. -/
def DesiredRule.Keeps (desired : DesiredRule) (inv : Session Store → Prop) : Prop :=
  ∀ runId now zoneId session, inv session →
    Leads runId now (desired.reconcile zoneId) session fun _ after => inv after

section

variable {inv : Session Store → Prop} {runId : RunId} {now : Timestamp} {session : Session Store}

theorem DesiredRule.reconcileAll_keeps {entries : List DesiredRule}
    (keeps : ∀ desired ∈ entries, desired.Keeps inv) (zoneId : String) (holds : inv session) :
    Leads runId now (reconcileAll zoneId entries) session fun _ after => inv after := by
  induction entries generalizing session with
  | nil => exact .pure holds
  | cons desired rest ih =>
    obtain ⟨first, others⟩ := List.forall_mem_cons.mp keeps
    refine .bind ((first runId now zoneId session holds).imp fun result middle holds' => ?_)
    cases result with
    | error fault => exact holds'
    | ok outcome =>
      refine .bind ((ih others holds').imp fun result after holds'' => ?_)
      cases result with
      | error fault => exact holds''
      | ok outcomes => exact .pure holds''

variable (logged : ∀ session call, inv session → inv (session.logged call))

include logged

private theorem Subdomain.converge_keeps {rules : List DesiredRule}
    (keeps : ∀ desired ∈ rules, desired.Keeps inv) (target : Subdomain) (holds : inv session) :
    Leads runId now (target.converge rules) session fun _ after => inv after := by
  have holds' := logged session (.resolveZone target.zone) holds
  refine .bind (.resolveZone (fun _ _ => holds') fun zoneId _ => ?_)
  refine .bind ((DesiredRule.reconcileAll_keeps keeps zoneId holds').imp
    fun result after holds'' => ?_)
  cases result with
  | error fault => exact holds''
  | ok outcomes => exact .pure holds''

private theorem Subdomain.convergeAll_keeps {planned : List (Subdomain × List DesiredRule)}
    (keeps : ∀ pair ∈ planned, ∀ desired ∈ pair.2, desired.Keeps inv) (holds : inv session) :
    Leads runId now (Subdomain.convergeAll planned) session fun _ after => inv after := by
  induction planned generalizing session with
  | nil => exact .pure holds
  | cons first rest ih =>
    obtain ⟨target, rules⟩ := first
    obtain ⟨here, others⟩ := List.forall_mem_cons.mp keeps
    refine .bind ((converge_keeps logged here target holds).imp fun result middle holds' => ?_)
    cases result with
    | error fault => exact holds'
    | ok report =>
      refine .bind ((ih others holds').imp fun result after holds'' => ?_)
      cases result with
      | error fault => exact holds''
      | ok reports => exact .pure holds''

/-- What every entry of the plan keeps, the request keeps, whether or not it succeeds. -/
theorem Request.apply_keeps {request : Request}
    (keeps : ∀ planned, request.plan = .ok planned → ∀ pair ∈ planned, ∀ desired ∈ pair.2,
      desired.Keeps inv) (holds : inv session) :
    Leads runId now request.apply session fun _ after => inv after := by
  refine .bind (.done ?_)
  cases planned : request.plan with
  | error fault => exact holds
  | ok pairs => exact Subdomain.convergeAll_keeps logged (keeps pairs planned) holds

end

end EdgePolicy
