import EdgePolicy.Proofs.Reconcile.Stages

/-
Convergence of a list of entries.

On a platform that works, with a logbook within reach, entries of distinct tags are all brought to
their desired states, and nothing else is changed.
-/

set_option autoImplicit false
set_option relaxedAutoImplicit false

namespace EdgePolicy

namespace DesiredRule

/-- The stages of a run, the desired states at its end, and everything that it left as it was. -/
structure Converged (zoneId : String) (entries : List DesiredRule) (outcomes : List Outcome)
    (before after : Store) : Prop where
  settled : ∀ desired ∈ entries, desired.Settled zoneId after
  stages : Stages zoneId entries outcomes before after
  framed : Store.Framed zoneId (allTargets entries) before after
  untouched : ∀ container ∈ before.containers,
    (∀ desired ∈ entries, before.serving? zoneId desired.category.phase ≠ some container) →
      container ∈ after.containers
  elsewhere : ∀ other, other ≠ zoneId →
    after.containers.filter (·.zoneId == other) = before.containers.filter (·.zoneId == other)
  zones : after.zones = before.zones

/-- Entries of distinct tags, none of which two rules carry, converge. -/
theorem reconcileAll_converges {zoneId : String} {entries : List DesiredRule}
    {session : Session Store} (wellFormed : session.platform.WellFormed)
    (working : session.platform.failing = []) (available : session.logbook.available = true)
    (distinct : (entries.map (·.tag)).Nodup)
    (single : ∀ desired ∈ entries, (desired.held zoneId session.platform).length ≤ 1)
    (maps : ∀ desired ∈ entries, desired.HasMaps) (runId : RunId) (now : Timestamp) :
    ∃ outcomes after, Session.onStore runId now (reconcileAll zoneId entries) session =
        (.ok outcomes, after) ∧
      Converged zoneId entries outcomes session.platform after.platform := by
  obtain ⟨outcomes, after, calls, reached, advance, stages⟩ :=
    reconcileAll_stages wellFormed working available single runId now
  have framed := advance.edits.framed wellFormed
  have agree : ∀ first ∈ entries, ∀ second ∈ entries, first.tag = second.tag →
      first.body = second.body := fun first member second member' same => by
    rw [List.inj_on_of_nodup_map distinct member member' same]
  refine ⟨outcomes, after, reached, stages.settled maps agree, stages, framed, ?_, ?_,
    advance.zones⟩
  · intro container member spared
    refine framed.untouched member fun phase tag ⟨desired, entry, same, _⟩ => ?_
    rw [same]
    exact spared desired entry
  · exact fun other different => framed.elsewhere different

def platformOf (body : RuleBody) : Store :=
  { Store.empty with
    containers := [{ Store.provisioned "zone" s!"ruleset-{1}" .firewall "zone" with
      rules := [Store.ruleOf s!"rule-{2}" body] }]
    issued := 2 }

theorem wellFormed_platformOf (body : RuleBody) : (platformOf body).WellFormed := by
  refine ⟨List.nodup_singleton _, by simp [platformOf, Store.ruleOf], fun n later => ?_,
    fun n later => ?_⟩
  · refine List.forall_mem_singleton.mpr fun same => ?_
    have number := Store.containerId_injective same
    have issued : 2 < n := later
    omega
  · refine List.forall_mem_singleton.mpr (List.forall_mem_singleton.mpr fun same => ?_)
    have number := Store.ruleId_injective same
    have issued : 2 < n := later
    omega

/-- The container holds a rule for countries. -/
def sampleSession : Session Store where
  platform := { Store.empty with
    containers := [
      { Store.provisioned "zone" s!"ruleset-{1}" .firewall "zone" with
        rules := [Store.ruleOf s!"rule-{2}" ⟨"country_example.com", .block, "", true, none, none,
          none⟩] }]
    issued := 2 }
  logbook := .empty "journal"

/-- One rule that must exist and one that must not. -/
def sampleEntries : List DesiredRule :=
  [⟨.blacklist, "example.com", some ⟨.block, "", true, some (.object [("id", .null)]), none⟩⟩,
    absent .country "example.com"]

theorem wellFormed_sampleSession : sampleSession.platform.WellFormed :=
  wellFormed_platformOf _

theorem hasMaps_sampleEntries : ∀ desired ∈ sampleEntries, desired.HasMaps := by
  refine List.forall_mem_cons.mpr ⟨fun body wanted value given => ?_,
    List.forall_mem_singleton.mpr fun _ => nofun⟩
  cases wanted
  cases given
  rfl

theorem reconcileAll_converges_sample :
    (sampleSession.platform.WellFormed ∧ sampleSession.platform.failing = [] ∧
      sampleSession.logbook.available = true ∧ (sampleEntries.map (·.tag)).Nodup ∧
      (∀ desired ∈ sampleEntries, (desired.held "zone" sampleSession.platform).length ≤ 1) ∧
      ∀ desired ∈ sampleEntries, desired.HasMaps) ∧
    ∃ outcomes after, Session.onStore default default (reconcileAll "zone" sampleEntries)
        sampleSession = (.ok outcomes, after) ∧
      Converged "zone" sampleEntries outcomes sampleSession.platform after.platform := by
  have distinct : (sampleEntries.map (·.tag)).Nodup := by
    decide
  have single : ∀ desired ∈ sampleEntries,
      (desired.held "zone" sampleSession.platform).length ≤ 1 := by
    intro desired _
    unfold held Store.tagged
    split
    · rename_i container serves
      have only := List.mem_singleton.mp (Store.serving?_eq_some serves).1
      subst only
      exact List.length_filter_le _ _
    · exact Nat.zero_le _
  exact ⟨⟨wellFormed_sampleSession, rfl, rfl, distinct, single, hasMaps_sampleEntries⟩,
    reconcileAll_converges wellFormed_sampleSession rfl rfl distinct single hasMaps_sampleEntries
      default default⟩

end DesiredRule

end EdgePolicy
