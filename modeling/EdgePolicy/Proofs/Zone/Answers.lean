import EdgePolicy.Proofs.Zone.Contents
import EdgePolicy.Proofs.Zone.Changes

/-
What one call may do to a platform, whoever makes it.

`Store.Answered` says it call by call, for a container that is named by its identifier and need not
serve any phase.  No call breaks a well-formed platform, and a tag comes to be carried twice only
through a call that is not safe for it.
-/

set_option autoImplicit false
set_option relaxedAutoImplicit false

namespace EdgePolicy

namespace Store

/-- The platform after a call. -/
inductive Answered (before after : Store) : Call → Prop
  | kept {call : Call} (containers : after.containers = before.containers)
      (issued : before.issued ≤ after.issued) : Answered before after call
  | provisioned (zoneId : String) (phase : Phase)
      (containers : after.containers = before.containers ++
        [Store.provisioned zoneId s!"ruleset-{before.issued + 1}" phase "zone"])
      (issued : after.issued = before.issued + 1) :
      Answered before after (.createContainer zoneId phase)
  | created {zoneId containerId : String} {body : RuleBody} {container : Container}
      (front back : List RemoteRule)
      (found : before.container? zoneId containerId = some container)
      (shape : container.rules = front ++ back)
      (containers : after.containers = (before.withRules zoneId containerId
        (front ++ ruleOf s!"rule-{before.issued + 1}" body :: back)).containers)
      (issued : after.issued = before.issued + 1) :
      Answered before after (.createRule zoneId containerId body)
  | patched {zoneId containerId : String} {body : RuleBody} {container : Container}
      (front back : List RemoteRule) (old : RemoteRule)
      (found : before.container? zoneId containerId = some container)
      (shape : container.rules = front ++ old :: back)
      (containers : after.containers = (before.withRules zoneId containerId
        (front ++ Store.patched old body :: back)).containers)
      (issued : after.issued = before.issued) :
      Answered before after (.patchRule zoneId containerId old.id body)
  | deleted {zoneId containerId ruleId : String} {container : Container}
      (found : before.container? zoneId containerId = some container)
      (containers : after.containers = (before.withRules zoneId containerId
        (container.rules.filter (·.id != ruleId))).containers)
      (issued : after.issued = before.issued) :
      Answered before after (.deleteRule zoneId containerId ruleId)

theorem answer_answered (call : Call) (store : Store) :
    store.Answered (answer call store).2 call := by
  rcases answered : answer call store with ⟨result, after⟩
  cases answer_replies answered with
  | resolved | unresolved | listed | fetched => exact .kept rfl (Nat.le_refl _)
  | refused path status cause failure later => exact .kept rfl later
  | provisioned zoneId phase | lost zoneId phase => exact .provisioned zoneId phase rfl rfl
  | created front back found shape placed => exact .created front back found shape rfl rfl
  | patched front back found shape others => exact .patched front back _ found shape rfl rfl
  | deleted found => exact .deleted found rfl rfl

section

variable {before after : Store} {zoneId containerId tag : String} {container : Container}
  {rules : List RemoteRule}

theorem WellFormed.withRules (wellFormed : before.WellFormed)
    (found : before.container? zoneId containerId = some container)
    (containers : after.containers = (before.withRules zoneId containerId rules).containers)
    (issued : before.issued ≤ after.issued) (ids : (rules.map (·.id)).Nodup)
    (fresh : ∀ n, after.issued < n → ∀ rule ∈ rules, rule.id ≠ s!"rule-{n}") :
    after.WellFormed := by
  obtain ⟨front, back, shape, absent, here⟩ := container?_split found
  rw [withRules_containers shape absent here] at containers
  exact wellFormed.rewritten shape containers issued ids fresh

theorem Once.withRules (once : before.Once tag)
    (found : before.container? zoneId containerId = some container)
    (containers : after.containers = (before.withRules zoneId containerId rules).containers)
    (single : (rules.filter (·.tag == tag)).length ≤ 1) : after.Once tag := by
  obtain ⟨front, back, shape, absent, here⟩ := container?_split found
  rw [withRules_containers shape absent here] at containers
  unfold Once at once ⊢
  rw [shape] at once
  rw [containers]
  simp only [List.forall_mem_append, List.forall_mem_cons] at once ⊢
  exact ⟨once.1, single, once.2.2⟩

theorem WellFormed.answered (wellFormed : before.WellFormed) {call : Call}
    (answered : before.Answered after call) : after.WellFormed := by
  -- An edit of one container, whatever its tags.
  have edited : ∀ {zoneId containerId container rules},
      before.container? zoneId containerId = some container →
      after.containers = (before.withRules zoneId containerId rules).containers →
      RuleEdit (fun _ => True) before.issued after.issued container.rules rules →
      after.WellFormed := fun found containers edit => by
    have member := List.mem_of_find?_eq_some found
    have fresh := fun n later => wellFormed.freshRules n later _ member
    exact wellFormed.withRules found containers edit.issued_le
      (edit.nodup (wellFormed.ruleIds _ member) (fresh _ (Nat.lt_succ_self _))) (edit.fresh fresh)
  cases answered with
  | kept containers issued => exact wellFormed.of_containers_eq containers issued
  | provisioned zoneId phase containers issued =>
    exact wellFormed.provisioned zoneId phase "zone" containers issued
  | created front back found shape containers issued =>
    refine edited found containers ?_
    rw [shape, issued]
    exact .insert front back _ trivial rfl
  | patched front back old found shape containers issued =>
    refine edited found containers ?_
    rw [shape, issued]
    exact .replace front back old _ trivial trivial rfl
  | deleted found containers issued =>
    have member := List.mem_of_find?_eq_some found
    refine wellFormed.withRules found containers (Nat.le_of_eq issued.symm)
      ((wellFormed.ruleIds _ member).sublist (List.filter_sublist.map _)) fun n later rule held => ?_
    rw [issued] at later
    exact wellFormed.freshRules n later _ member rule (List.mem_of_mem_filter held)

end

theorem mem_of_selected {store : Store} {zoneId : String} {phase : Phase}
    {summaries : List ContainerSummary} {summary : ContainerSummary}
    (listed : (answer (.listContainers zoneId) store).1 = .ok summaries)
    (selected : ContainerSummary.select? summaries phase = some summary) :
    ∃ container ∈ store.containers, container.summary = summary := by
  rcases answered : answer (.listContainers zoneId) store with ⟨result, after⟩
  rw [answered] at listed
  subst listed
  cases answer_replies answered
  rw [select?_summaries, Option.map_eq_some_iff] at selected
  obtain ⟨container, serves, same⟩ := selected
  exact ⟨container, List.mem_of_find?_eq_some serves, same⟩

theorem mem_of_provisioned {store : Store} {zoneId : String} {phase : Phase}
    {summary : ContainerSummary}
    (done : (answer (.createContainer zoneId phase) store).1 = .ok summary) :
    ∃ container ∈ (answer (.createContainer zoneId phase) store).2.containers,
      container.summary = summary := by
  rcases answered : answer (.createContainer zoneId phase) store with ⟨result, after⟩
  rw [answered] at done
  subst done
  cases answer_replies answered
  exact ⟨_, List.mem_append_right _ (List.mem_singleton_self _), rfl⟩

section

variable {store : Store} {zoneId containerId ruleId : String} {body : RuleBody} {rule : RemoteRule}

theorem container?_created
    (done : (answer (.createRule zoneId containerId body) store).1 = .ok rule) :
    ∃ container front back, store.container? zoneId containerId = some container ∧
      container.rules = front ++ back ∧ rule.tag = body.tag ∧
      (answer (.createRule zoneId containerId body) store).2.container? zoneId containerId =
        some { container with rules := front ++ rule :: back } := by
  rcases answered : answer (.createRule zoneId containerId body) store with ⟨result, after⟩
  rw [answered] at done
  subst done
  cases answer_replies answered with
  | @created _ _ _ container front back found shape placed =>
    exact ⟨container, front, back, found, shape, rfl, container?_withRules found _⟩

theorem container?_patched
    (done : (answer (.patchRule zoneId containerId ruleId body) store).1 = .ok rule) :
    ∃ (container : Container) (front back : List RemoteRule),
      (∀ other ∈ front, other.id ≠ ruleId) ∧ rule.id = ruleId ∧
      (answer (.patchRule zoneId containerId ruleId body) store).2.container? zoneId containerId =
        some { container with rules := front ++ rule :: back } := by
  rcases answered : answer (.patchRule zoneId containerId ruleId body) store with ⟨result, after⟩
  rw [answered] at done
  subst done
  cases answer_replies answered with
  | @patched _ _ _ container old front back found shape others =>
    exact ⟨container, front, back, others, rfl, container?_withRules found _⟩

end

theorem container?_fetched {store : Store} {zoneId containerId : String} {snapshot : Snapshot}
    (fetched : (answer (.fetchContainer zoneId containerId) store).1 = .ok snapshot) :
    ∃ container, store.container? zoneId containerId = some container ∧
      (answer (.fetchContainer zoneId containerId) store).2.container? zoneId containerId =
        some container ∧ container.snapshot = snapshot := by
  rcases answered : answer (.fetchContainer zoneId containerId) store with ⟨result, after⟩
  rw [answered] at fetched
  subst fetched
  cases answer_replies answered with
  | @fetched _ _ container found => exact ⟨container, found, found, rfl⟩

theorem rulesAt_fetched {store : Store} {zoneId containerId : String} {snapshot : Snapshot}
    (fetched : (answer (.fetchContainer zoneId containerId) store).1 = .ok snapshot) :
    (answer (.fetchContainer zoneId containerId) store).2.rulesAt zoneId containerId =
      snapshot.rules := by
  obtain ⟨container, -, found, rfl⟩ := container?_fetched fetched
  exact rulesAt_of_container? found

end Store

/-- A call after which no container has two rules with a tag that it had once: a rule is created
where none has the tag, and a rule that is patched has had it. -/
def Call.Safe (store : Store) (tag : String) : Call → Prop
  | createRule zoneId containerId body => body.tag = tag →
    (store.rulesAt zoneId containerId).filter (·.tag == tag) = []
  | patchRule zoneId containerId ruleId body => body.tag = tag →
    ∀ rule ∈ store.rulesAt zoneId containerId, rule.id = ruleId → rule.tag = tag
  | _ => True

theorem Store.Once.answered {before after : Store} {tag : String} (once : before.Once tag)
    {call : Call} (safe : call.Safe before tag) (answered : before.Answered after call) :
    after.Once tag := by
  cases answered with
  | kept containers issued =>
    unfold Once
    rwa [containers]
  | provisioned zoneId phase containers issued =>
    unfold Once
    rw [containers]
    exact List.forall_mem_append.mpr ⟨once, List.forall_mem_singleton.mpr (Nat.zero_le _)⟩
  | @created _ _ body container front back found shape containers issued =>
    refine once.withRules found containers ?_
    have before := once container (List.mem_of_find?_eq_some found)
    rw [shape, List.filter_append] at before
    by_cases same : body.tag = tag
    · have none := safe same
      rw [rulesAt_of_container? found, shape, List.filter_append, List.append_eq_nil_iff] at none
      rw [List.filter_append, none.1, List.filter_cons, none.2]
      split <;> simp
    · rw [List.filter_append, List.filter_cons_of_neg (by simpa [ruleOf] using same)]
      exact before
  | @patched _ _ body container front back old found shape containers issued =>
    refine once.withRules found containers ?_
    have before := once container (List.mem_of_find?_eq_some found)
    rw [shape, List.filter_append] at before
    by_cases same : body.tag = tag
    · have had := safe same old (by rw [rulesAt_of_container? found]; simp [shape]) rfl
      rw [List.filter_cons_of_pos (by simpa using had)] at before
      rw [List.filter_append, List.filter_cons_of_pos (by simpa [Store.patched, ruleOf] using same)]
      simpa using before
    · rw [List.filter_append,
        List.filter_cons_of_neg (by simpa [Store.patched, ruleOf] using same)]
      refine Nat.le_trans ?_ before
      simp only [List.length_append, List.filter_cons]
      split <;> simp
  | @deleted _ _ ruleId container found containers issued =>
    refine once.withRules found containers (Nat.le_trans ?_
      (once container (List.mem_of_find?_eq_some found)))
    exact (List.filter_sublist.filter _).length_le

end EdgePolicy
