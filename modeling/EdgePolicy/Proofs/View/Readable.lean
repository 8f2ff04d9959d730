import EdgePolicy.Apply
import EdgePolicy.Proofs.Reconcile.Conclude
import EdgePolicy.Proofs.View.Waf

/-
What a request that succeeds says about reading its rules back.

Reading the rules of a zone takes operations that reconciling an entry takes as well, so they are
not failing after a run that succeeds (`Request.apply_readable`): the zone is resolved, its
containers are listed, and a container that serves the phase is fetched.
-/

set_option autoImplicit false
set_option relaxedAutoImplicit false

namespace EdgePolicy

open Session (Leads onStore)

section

variable {α : Type} {runId : RunId} {now : Timestamp} {session : Session Store}

/-- A procedure that is ended by the failure of its first call succeeds only where the operation of
the call is not failing. -/
theorem Session.Leads.working (call : Call) {next : Except Error call.Reply → Procedure α}
    (ends : ∀ fault, next (.error fault) = .done (.error fault)) :
    Leads runId now (.ask call next) session fun result _ =>
      result.isOk = true → call.operation ∉ session.platform.failing := by
  intro ok failing
  have refused : (Store.answer call session.platform).1 =
      .error (Store.refusal call.path 500 (.injected call.operation.word)) := by
    rw [Store.answer, if_pos failing]
  have step : onStore runId now (.ask call next) session =
      onStore runId now (next (Store.answer call session.platform).1)
        { session with platform := (Store.answer call session.platform).2 } := rfl
  rw [step, refused, ends] at ok
  nomatch ok

namespace DesiredRule

variable {desired : DesiredRule} {zoneId : String} {phase : Phase} {entries : List DesiredRule}

private theorem reconcile_lists :
    Leads runId now (desired.reconcile zoneId) session fun result _ =>
      result.isOk = true → .listContainers ∉ session.platform.failing := by
  unfold reconcile locate
  cases desired.body with
  | none => exact .working (.listContainers zoneId) fun _ => rfl
  | some body => exact .working (.listContainers zoneId) fun _ => rfl

private theorem reconcile_fetches :
    Leads runId now (desired.reconcile zoneId) session fun result after => result.isOk = true →
      ∀ container, after.platform.serving? zoneId desired.category.phase = some container →
        .fetchContainer ∉ session.platform.failing := by
  refine .bind ((locate_leads.and (.fixed _)).imp fun result middle ⟨ends, _, same⟩ => ?_)
  cases result with
  | error fault => exact fun ok => nomatch ok
  | ok containerId =>
    obtain ⟨calls, -, here, -⟩ := ends
    cases containerId with
    | none =>
      -- There is no container, and recording the decision does not make one.
      have absent : middle.platform.serving? zoneId desired.category.phase = none :=
        Option.map_eq_none_iff.mp here.symm
      refine .bind (.record (fun logbook _ _ => .pure fun _ container serves => ?_)
        fun fault _ ok => nomatch ok)
      exact nomatch absent.symm.trans serves
    | some containerId =>
      suffices fetched : Leads runId now _ middle fun result _ =>
          result.isOk = true → .fetchContainer ∉ middle.platform.failing from
        fetched.imp fun result after working ok _ _ => same ▸ working ok
      exact .working (.fetchContainer zoneId containerId) fun _ => rfl

private theorem reconcile_readable :
    Leads runId now (desired.reconcile zoneId) session fun result after =>
      result.isOk = true → after.platform.Readable zoneId desired.category.phase := by
  refine (reconcile_lists.and (reconcile_fetches.and (.fixed _))).imp
    fun result after ⟨lists, fetches, _, same⟩ ok => ⟨?_, fun container serves => ?_⟩
  · exact same ▸ lists ok
  · exact same ▸ fetches ok container serves

private theorem reconcileAll_readable (some : entries ≠ [])
    (phases : ∀ desired ∈ entries, desired.category.phase = phase) :
    Leads runId now (reconcileAll zoneId entries) session fun result after =>
      result.isOk = true → after.platform.Readable zoneId phase := by
  induction entries generalizing session with
  | nil => exact absurd rfl some
  | cons desired rest ih =>
    obtain ⟨rfl, others⟩ := List.forall_mem_cons.mp phases
    refine .bind (reconcile_readable.imp fun result middle readable => ?_)
    cases result with
    | error fault => exact fun ok => nomatch ok
    | ok outcome =>
      cases rest with
      | nil => exact .bind (.pure (.pure fun _ => readable rfl))
      | cons second more =>
        refine .bind ((ih (List.cons_ne_nil _ _) others).imp fun result after readable => ?_)
        cases result with
        | error fault => exact fun ok => nomatch ok
        | ok outcomes => exact .pure fun _ => readable rfl

end DesiredRule

variable {zone zoneId : String} {phase : Phase}

private theorem Subdomain.converge_readable {target : Subdomain} {rules : List DesiredRule}
    (zones : session.platform.zones = [(zone, zoneId)]) (some : rules ≠ [])
    (phases : ∀ desired ∈ rules, desired.category.phase = phase) :
    Leads runId now (target.converge rules) session fun result after =>
      result.isOk = true → after.platform.Readable zoneId phase := by
  refine .bind (.resolveZone (fun fault _ ok => nomatch ok) fun found known => ?_)
  have same : found = zoneId := by
    rw [zones, List.lookup_cons] at known
    split at known
    · exact (Option.some.inj known).symm
    · nomatch known
  subst same
  refine .bind ((DesiredRule.reconcileAll_readable some phases).imp
    fun result after readable => ?_)
  cases result with
  | error fault => exact fun ok => nomatch ok
  | ok outcomes => exact .pure fun _ => readable rfl

private theorem Subdomain.convergeAll_readable {planned : List (Subdomain × List DesiredRule)}
    (zones : session.platform.zones = [(zone, zoneId)]) (some : planned ≠ [])
    (about : ∀ pair ∈ planned, pair.2 ≠ [] ∧
      ∀ desired ∈ pair.2, desired.category.phase = phase) :
    Leads runId now (convergeAll planned) session fun result after => result.isOk = true →
      .resolveZone ∉ after.platform.failing ∧ after.platform.Readable zoneId phase := by
  induction planned generalizing session with
  | nil => exact absurd rfl some
  | cons first rest ih =>
    obtain ⟨target, rules⟩ := first
    obtain ⟨⟨filled, phases⟩, others⟩ := List.forall_mem_cons.mp about
    have resolves : Leads runId now (target.converge rules) session fun result _ =>
        result.isOk = true → .resolveZone ∉ session.platform.failing :=
      .working (.resolveZone target.zone) fun _ => rfl
    refine .bind (((converge_readable zones filled phases).and (resolves.and (.fixed _))).imp
      fun result middle ⟨readable, working, zones', failing⟩ => ?_)
    cases result with
    | error fault => exact fun ok => nomatch ok
    | ok report =>
      cases rest with
      | nil => exact .bind (.pure (.pure fun _ => ⟨failing ▸ working rfl, readable rfl⟩))
      | cons second more =>
        refine .bind ((ih (zones'.trans zones) (List.cons_ne_nil _ _) others).imp
          fun result after readable => ?_)
        cases result with
        | error fault => exact fun ok => nomatch ok
        | ok reports => exact .pure fun _ => readable rfl

/-- After a request that succeeds, all of whose entries are of one phase, the rules of the phase can
be read. -/
theorem Request.apply_readable {request : Request}
    (zones : session.platform.zones = [(zone, zoneId)]) (some : request.targets ≠ [])
    (about : ∀ host rules, request.desired host = .ok rules → rules ≠ [] ∧
      ∀ desired ∈ rules, desired.category.phase = phase) :
    Leads runId now request.apply session fun result after => result.isOk = true →
      .resolveZone ∉ after.platform.failing ∧ after.platform.Readable zoneId phase := by
  refine .bind (.done ?_)
  cases planned : request.plan with
  | error fault => exact fun ok => nomatch ok
  | ok pairs =>
    obtain ⟨-, targets, each⟩ := Request.plan_eq_ok planned
    refine Subdomain.convergeAll_readable zones ?_ fun pair member =>
      about pair.1.name pair.2 (each pair member)
    rintro rfl
    exact some targets.symm

end

end EdgePolicy
