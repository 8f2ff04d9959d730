import EdgePolicy.Proofs.Reconcile.Conclude

/-
Bringing a list of entries to their desired states.

`Stages` follows the entries one after the other, each on what the earlier ones left.  An entry that
is settled stays settled through every later stage that has another tag, or the same tag with the
same body (`Stages.keeps`), so after the last stage all of them are settled (`Stages.settled`).
-/

set_option autoImplicit false
set_option relaxedAutoImplicit false

namespace EdgePolicy

open Session (Advance Leads)

namespace DesiredRule

/-- Entries brought to their desired states, with the outcomes, the calls of each and what each left
as it was. -/
inductive Stages (zoneId : String) : List DesiredRule → List Outcome → Store → Store → Prop
  | done (store : Store) : Stages zoneId [] [] store store
  | entry {desired : DesiredRule} {rest : List DesiredRule} {outcome : Outcome}
      {outcomes : List Outcome} {before middle after : Store} (calls : List Call)
      (logged : middle.calls = before.calls ++ calls)
      (entry : desired.Entry zoneId calls before middle outcome)
      (unwanted : desired.body = none → ∀ call ∈ calls,
        call.operation ∉ [Operation.createContainer, .createRule, .patchRule])
      (framed : Store.Framed zoneId desired.targets before middle)
      (stages : Stages zoneId rest outcomes middle after) :
      Stages zoneId (desired :: rest) (outcome :: outcomes) before after

/-- The tags of some entries, in the phases of their categories. -/
def allTargets (entries : List DesiredRule) (phase : Phase) (tag : String) : Prop :=
  ∃ desired ∈ entries, desired.targets phase tag

variable {zoneId : String} {before after : Store} {entries : List DesiredRule}
  {outcomes : List Outcome} {desired : DesiredRule}

theorem held_of_framed {zoneId' : String} {targets : Phase → String → Prop}
    (framed : Store.Framed zoneId' targets before after)
    (spared : zoneId ≠ zoneId' ∨ ¬ targets desired.category.phase desired.tag) :
    desired.held zoneId after = desired.held zoneId before :=
  framed.tagged_other spared

theorem Settled.of_framed (settled : desired.Settled zoneId before) {zoneId' : String}
    {targets : Phase → String → Prop} (framed : Store.Framed zoneId' targets before after)
    (spared : zoneId ≠ zoneId' ∨ ¬ targets desired.category.phase desired.tag) :
    desired.Settled zoneId after := by
  obtain ⟨rule?, was, accepted⟩ := settled
  exact ⟨rule?, (held_of_framed framed spared).trans was, accepted⟩

private theorem held_of_targets {other : DesiredRule}
    (same : other.targets desired.category.phase desired.tag) (store : Store) :
    desired.held zoneId store = other.held zoneId store := by
  unfold held
  rw [same.1, same.2]

/-- An entry that is settled stays so through stages that do not want another body for its tag. -/
theorem Stages.keeps (stages : Stages zoneId entries outcomes before after)
    (maps : ∀ entry ∈ entries, entry.HasMaps)
    (agree : ∀ entry ∈ entries, entry.tag = desired.tag → entry.body = desired.body)
    (settled : desired.Settled zoneId before) : desired.Settled zoneId after := by
  induction stages with
  | done store => exact settled
  | @entry first rest outcome outcomes before middle after calls logged entry _ framed stages ih =>
    simp only [List.forall_mem_cons] at maps agree
    refine ih maps.2 agree.2 ?_
    -- A stage of the same tag wants the same body, and settles the entry once more.
    by_cases same : first.targets desired.category.phase desired.tag
    · obtain ⟨rule?, was, accepted⟩ := entry.effect.settled maps.1
      refine ⟨rule?, (held_of_targets same middle).trans was, ?_⟩
      unfold Accepts at accepted ⊢
      rwa [agree.1 same.2.symm] at accepted
    · exact settled.of_framed framed (.inr same)

/-- After the stages all entries are settled. -/
theorem Stages.settled (stages : Stages zoneId entries outcomes before after)
    (maps : ∀ entry ∈ entries, entry.HasMaps)
    (agree : ∀ first ∈ entries, ∀ second ∈ entries, first.tag = second.tag →
      first.body = second.body) : ∀ entry ∈ entries, entry.Settled zoneId after := by
  induction stages with
  | done store => exact List.forall_mem_nil _
  | @entry first rest outcome outcomes before middle after calls logged entry _ framed stages ih =>
    simp only [List.forall_mem_cons] at maps agree ⊢
    refine ⟨?_, ih maps.2 fun one member other member' => (agree.2 one member).2 other member'⟩
    exact stages.keeps maps.2 (fun other member => (agree.2 other member).1)
      (entry.effect.settled maps.1)

private theorem Stages.held_of_others (stages : Stages zoneId entries outcomes before after)
    (others : ∀ entry ∈ entries, entry.tag ≠ desired.tag) :
    desired.held zoneId after = desired.held zoneId before := by
  induction stages with
  | done store => rfl
  | entry calls logged entry unwanted framed stages ih =>
    obtain ⟨other, others⟩ := List.forall_mem_cons.mp others
    rw [ih others]
    exact held_of_framed framed (.inr fun same => other same.2.symm)

/-- Among stages of other tags, what becomes of the rules with the tag of an entry is the effect of
its own stage. -/
theorem Stages.effect {front back : List DesiredRule}
    (stages : Stages zoneId (front ++ desired :: back) outcomes before after)
    (others : ∀ entry ∈ front ++ back, entry.tag ≠ desired.tag) :
    ∃ before' after' outcome, desired.held zoneId before' = desired.held zoneId before ∧
      desired.Effect zoneId before' after' outcome ∧
      desired.held zoneId after = desired.held zoneId after' := by
  induction front generalizing outcomes before with
  | nil =>
    cases stages with
    | entry calls logged entry unwanted framed stages =>
      exact ⟨_, _, _, rfl, entry.effect, stages.held_of_others others⟩
  | cons first front ih =>
    cases stages with
    | entry calls logged entry unwanted framed stages =>
      obtain ⟨other, others⟩ := List.forall_mem_cons.mp others
      obtain ⟨before', after', outcome, held, effect, held'⟩ := ih stages others
      refine ⟨before', after', outcome, held.trans ?_, effect, held'⟩
      exact held_of_framed framed (.inr fun same => other same.2.symm)

theorem Stages.of_settled (stages : Stages zoneId entries outcomes before after)
    (settled : ∀ entry ∈ entries, entry.Settled zoneId before) :
    after.containers = before.containers ∧
      (∀ outcome ∈ outcomes, ∃ ruleId?, outcome = .unchanged ruleId?) ∧
      ∃ calls, after.calls = before.calls ++ calls ∧ ∀ call ∈ calls,
        call.operation ∉ [Operation.createContainer, .createRule, .patchRule, .deleteRule] := by
  induction stages with
  | done store => exact ⟨rfl, by simp, [], by simp, by simp⟩
  | @entry first rest outcome outcomes before middle after calls logged entry _ framed stages ih =>
    simp only [List.forall_mem_cons] at settled
    obtain ⟨containers, ruleId?, rfl⟩ := entry.effect.of_settled settled.1
    obtain ⟨containers', unchanged, calls', logged', reads⟩ := ih fun desired member => by
      obtain ⟨rule?, was, accepted⟩ := settled.2 desired member
      exact ⟨rule?, (held_of_containers containers).trans was, accepted⟩
    refine ⟨containers'.trans containers, List.forall_mem_cons.mpr ⟨⟨ruleId?, rfl⟩, unchanged⟩,
      calls ++ calls', by rw [logged', logged, List.append_assoc], ?_⟩
    exact List.forall_mem_append.mpr ⟨entry.of_unchanged, reads⟩

theorem reconcileAll_leads (runId : RunId) (now : Timestamp) (zoneId : String)
    (entries : List DesiredRule) {session : Session Store}
    (wellFormed : session.platform.WellFormed) :
    Leads runId now (reconcileAll zoneId entries) session fun result after =>
      ∃ calls, Advance zoneId (allTargets entries) calls session after ∧
        match result with
        | .ok outcomes => Stages zoneId entries outcomes session.platform after.platform
        | .error _ => ∃ desired ∈ entries, desired.Hindered zoneId session := by
  induction entries generalizing session with
  | nil => exact .pure ⟨[], .refl session, .done _⟩
  | cons first rest ih =>
    refine .bind ((reconcile_leads wellFormed).imp fun result middle ends => ?_)
    obtain ⟨calls, advance, ends⟩ := ends
    have wider : Advance zoneId (allTargets (first :: rest)) calls session middle :=
      advance.mono fun phase tag target => ⟨first, List.mem_cons_self, target⟩
    cases result with
    | error fault => exact ⟨calls, wider, first, List.mem_cons_self, ends⟩
    | ok outcome =>
      have framed := advance.edits.framed wellFormed
      refine .bind ((ih (advance.edits.wellFormed wellFormed)).imp fun result after ends' => ?_)
      obtain ⟨calls', advance', ends'⟩ := ends'
      have whole := wider.trans (advance'.mono fun phase tag ⟨desired, member, target⟩ =>
        ⟨desired, List.mem_cons_of_mem _ member, target⟩)
      cases result with
      | ok outcomes =>
        exact ⟨_, whole, .entry calls advance.calls ends ends.of_unwanted framed ends'⟩
      | error fault =>
        obtain ⟨desired, member, hindered⟩ := ends'
        refine ⟨_, whole, desired, List.mem_cons_of_mem _ member, ?_⟩
        unfold Hindered at hindered ⊢
        rw [advance.failing, advance.available] at hindered
        -- A later entry finds two rules of its tag only where they stood at the start: an earlier
        -- entry of the same tag leaves one at most.
        refine hindered.imp_right fun hindered => hindered.imp_right fun many => ?_
        by_cases same : first.targets desired.category.phase desired.tag
        · have single := ends.effect.single
          rw [← held_of_targets same] at single
          omega
        · rwa [held_of_framed framed (.inr same)] at many

/-- On a platform that works, with a logbook within reach, entries whose tags are not carried by two
rules go through all their stages. -/
theorem reconcileAll_stages {session : Session Store} (wellFormed : session.platform.WellFormed)
    (working : session.platform.failing = []) (available : session.logbook.available = true)
    (single : ∀ desired ∈ entries, (desired.held zoneId session.platform).length ≤ 1)
    (runId : RunId) (now : Timestamp) :
    ∃ outcomes after calls, Session.onStore runId now (reconcileAll zoneId entries) session =
        (.ok outcomes, after) ∧
      Advance zoneId (allTargets entries) calls session after ∧
      Stages zoneId entries outcomes session.platform after.platform := by
  rcases reached : Session.onStore runId now (reconcileAll zoneId entries) session
    with ⟨result, after⟩
  obtain ⟨calls, advance, ends⟩ :=
    (reconcileAll_leads runId now zoneId entries wellFormed).elim reached
  cases result with
  | error fault =>
    obtain ⟨desired, member, failing | lost | many⟩ := ends
    · exact absurd working failing
    · exact nomatch available.symm.trans lost
    · exact absurd (single desired member) (by omega)
  | ok outcomes => exact ⟨outcomes, after, calls, rfl, advance, ends⟩

end DesiredRule

end EdgePolicy
