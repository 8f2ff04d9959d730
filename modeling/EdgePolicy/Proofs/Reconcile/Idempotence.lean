import EdgePolicy.Proofs.Reconcile.Stages

/-
Entries that have converged stay converged.

Whatever is reconciled afterwards under other tags, in whatever zone and whether or not it succeeds,
a second run over the same entries only reads.
-/

set_option autoImplicit false
set_option relaxedAutoImplicit false

namespace EdgePolicy

open Session (onStore)

/-- What may happen to a session without any reconciliation of some tags: other tags are reconciled,
and whatever is not about containers is set, such as the operations that fail. -/
inductive Session.Meanwhile (tags : List String) : Session Store → Session Store → Prop
  | done (session : Session Store) : Meanwhile tags session session
  | reconciled {session after : Session Store} (runId : RunId) (now : Timestamp) (zoneId : String)
      (entries : List DesiredRule) (others : ∀ desired ∈ entries, desired.tag ∉ tags)
      (more : Meanwhile tags
        (onStore runId now (DesiredRule.reconcileAll zoneId entries) session).2 after) :
      Meanwhile tags session after
  | set {session after : Session Store} (changed : Session Store)
      (containers : changed.platform.containers = session.platform.containers)
      (issued : changed.platform.issued = session.platform.issued)
      (more : Meanwhile tags changed after) : Meanwhile tags session after

namespace DesiredRule

variable {zoneId : String} {entries : List DesiredRule}

private theorem wellFormed_meanwhile {tags : List String} {session after : Session Store}
    (meanwhile : Session.Meanwhile tags session after) (wellFormed : session.platform.WellFormed) :
    after.platform.WellFormed := by
  induction meanwhile with
  | done session => exact wellFormed
  | reconciled runId now zoneId entries others more ih =>
    obtain ⟨calls, advance, -⟩ := reconcileAll_leads runId now zoneId entries wellFormed
    exact ih (advance.edits.wellFormed wellFormed)
  | set changed containers issued more ih =>
    exact ih (wellFormed.of_containers_eq containers (Nat.le_of_eq issued.symm))

private theorem Settled.meanwhile {tags : List String} {desired : DesiredRule}
    {session after : Session Store} (settled : desired.Settled zoneId session.platform)
    (meanwhile : Session.Meanwhile tags session after)
    (wellFormed : session.platform.WellFormed) (spared : desired.tag ∈ tags) :
    desired.Settled zoneId after.platform := by
  induction meanwhile with
  | done session => exact settled
  | reconciled runId now zoneId' entries others more ih =>
    obtain ⟨calls, advance, -⟩ := reconcileAll_leads runId now zoneId' entries wellFormed
    have framed := advance.edits.framed wellFormed
    refine ih (settled.of_framed framed (.inr ?_)) (advance.edits.wellFormed wellFormed)
    rintro ⟨other, member, -, same⟩
    exact others other member (same ▸ spared)
  | set changed containers issued more ih =>
    obtain ⟨rule?, was, accepted⟩ := settled
    exact ih ⟨rule?, (held_of_containers containers).trans was, accepted⟩
      (wellFormed.of_containers_eq containers (Nat.le_of_eq issued.symm))

theorem Settled.single {desired : DesiredRule} {store : Store}
    (settled : desired.Settled zoneId store) : (desired.held zoneId store).length ≤ 1 := by
  obtain ⟨rule?, was, -⟩ := settled
  rw [was]
  cases rule? <;> simp

/-- Once entries have converged, a later run over them changes nothing, whatever was reconciled
under other tags in the meantime. -/
theorem reconcileAll_idempotent {session between : Session Store}
    (wellFormed : session.platform.WellFormed) (maps : ∀ desired ∈ entries, desired.HasMaps)
    (agree : ∀ first ∈ entries, ∀ second ∈ entries, first.tag = second.tag →
      first.body = second.body)
    {runId : RunId} {now : Timestamp} {outcomes : List Outcome}
    (converged : (onStore runId now (reconcileAll zoneId entries) session).1 = .ok outcomes)
    (meanwhile : Session.Meanwhile (entries.map (·.tag))
      (onStore runId now (reconcileAll zoneId entries) session).2 between)
    (working : between.platform.failing = []) (available : between.logbook.available = true)
    (runId' : RunId) (now' : Timestamp) :
    ∃ outcomes' after calls,
      onStore runId' now' (reconcileAll zoneId entries) between = (.ok outcomes', after) ∧
        (∀ outcome ∈ outcomes', ∃ ruleId?, outcome = .unchanged ruleId?) ∧
        after.platform.containers = between.platform.containers ∧
        after.platform.calls = between.platform.calls ++ calls ∧
        ∀ call ∈ calls,
          call.operation ∉ [Operation.createContainer, .createRule, .patchRule, .deleteRule] := by
  rcases reached : onStore runId now (reconcileAll zoneId entries) session with ⟨result, middle⟩
  rw [reached] at converged meanwhile
  subst converged
  obtain ⟨_, advance, stages⟩ :=
    (reconcileAll_leads runId now zoneId entries wellFormed).elim reached
  have wellFormed' := advance.edits.wellFormed wellFormed
  -- The first run settled the entries, and nothing in between disturbed them.
  have settled : ∀ desired ∈ entries, desired.Settled zoneId between.platform :=
    fun desired member => (stages.settled maps agree desired member).meanwhile meanwhile wellFormed'
      (List.mem_map_of_mem member)
  have wellFormed'' := wellFormed_meanwhile meanwhile wellFormed'
  obtain ⟨outcomes', after, calls, again, -, stages'⟩ := reconcileAll_stages wellFormed'' working
    available (fun desired member => (settled desired member).single) runId' now'
  obtain ⟨containers, unchanged, calls', logged, reads⟩ := stages'.of_settled settled
  exact ⟨outcomes', after, calls', again, unchanged, containers, logged, reads⟩

/-- A rule with parameters and a logging block, wanted twice. -/
def repeatedEntries : List DesiredRule :=
  List.replicate 2 ⟨.whitelist, "example.com", some ⟨.skip, "", true,
    some (.object [("phases", .array [.string "http_ratelimit"])]), some ⟨true⟩⟩⟩

/-- The session after a first run over the repeated entries. -/
def firstSession : Session Store :=
  (onStore default default (reconcileAll "zone" repeatedEntries) ⟨.empty, .empty "journal"⟩).2

/-- The session after another tag was reconciled as well. -/
def laterSession : Session Store :=
  (onStore default default (reconcileAll "zone" [absent .country "example.com"]) firstSession).2

private theorem hasMaps_repeatedEntries : ∀ desired ∈ repeatedEntries, desired.HasMaps := by
  intro desired member body wanted value given
  obtain rfl := List.eq_of_mem_replicate member
  cases wanted
  cases given
  rfl

private theorem agree_repeatedEntries : ∀ first ∈ repeatedEntries, ∀ second ∈ repeatedEntries,
    first.tag = second.tag → first.body = second.body := by
  intro first member second member' _
  rw [List.eq_of_mem_replicate member, List.eq_of_mem_replicate member']

private theorem reconcileAll_repeatedEntries : ∃ outcomes,
    onStore default default (reconcileAll "zone" repeatedEntries) ⟨.empty, .empty "journal"⟩ =
        (.ok outcomes, firstSession) ∧
      laterSession.platform.failing = [] ∧ laterSession.logbook.available = true := by
  obtain ⟨outcomes, after, calls, reached, advance, -⟩ :=
    @reconcileAll_stages "zone" repeatedEntries ⟨.empty, .empty "journal"⟩ Store.wellFormed_empty
      rfl rfl (fun _ _ => Nat.zero_le _) default default
  obtain rfl : firstSession = after := congrArg Prod.snd reached
  rcases again : onStore default default (reconcileAll "zone" [absent .country "example.com"])
    firstSession with ⟨result, later⟩
  obtain ⟨calls', advance', -⟩ := (reconcileAll_leads default default "zone"
    [absent .country "example.com"] (advance.edits.wellFormed Store.wellFormed_empty)).elim again
  obtain rfl : laterSession = later := congrArg Prod.snd again
  exact ⟨outcomes, reached, advance'.failing.trans advance.failing,
    advance'.available.trans advance.available⟩

theorem reconcileAll_idempotent_sample :
    (∃ outcomes, (onStore default default (reconcileAll "zone" repeatedEntries)
        ⟨.empty, .empty "journal"⟩).1 = .ok outcomes) ∧
      Session.Meanwhile (repeatedEntries.map (·.tag)) firstSession laterSession ∧
      laterSession.platform.failing = [] ∧ laterSession.logbook.available = true ∧
    ∃ outcomes after calls,
      onStore default default (reconcileAll "zone" repeatedEntries) laterSession =
          (.ok outcomes, after) ∧
        (∀ outcome ∈ outcomes, ∃ ruleId?, outcome = .unchanged ruleId?) ∧
        after.platform.containers = laterSession.platform.containers ∧
        after.platform.calls = laterSession.platform.calls ++ calls ∧
        ∀ call ∈ calls,
          call.operation ∉ [Operation.createContainer, .createRule, .patchRule, .deleteRule] := by
  obtain ⟨outcomes, reached, working, available⟩ := reconcileAll_repeatedEntries
  have converged := congrArg Prod.fst reached
  have spared : ∀ desired ∈ [absent .country "example.com"],
      desired.tag ∉ repeatedEntries.map (·.tag) := by
    decide
  have meanwhile : Session.Meanwhile (repeatedEntries.map (·.tag)) firstSession laterSession :=
    .reconciled default default "zone" _ spared (.done laterSession)
  exact ⟨⟨outcomes, converged⟩, meanwhile, working, available,
    reconcileAll_idempotent Store.wellFormed_empty hasMaps_repeatedEntries agree_repeatedEntries
      converged meanwhile working available default default⟩

end DesiredRule

end EdgePolicy
