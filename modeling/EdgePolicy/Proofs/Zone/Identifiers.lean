import EdgePolicy.Proofs.Zone.Containers

/-
Identifiers stay distinct.

What is created gets the next number of one count, and different numbers are written differently.
So a platform stays well-formed when a container is provisioned (`WellFormed.provisioned`), and when
the rules of a container change to rules with distinct identifiers (`WellFormed.rewritten`).  For
the identifiers of the containers it does not matter which rules these are (`Addressed.rewritten`).
-/

set_option autoImplicit false
set_option relaxedAutoImplicit false

namespace EdgePolicy.Store

private theorem toString_injective {m n : Nat} (same : (toString m).toList = (toString n).toList) :
    m = n := by
  have digits : Nat.toDigits 10 m = Nat.toDigits 10 n := by simpa using same
  rw [← @Nat.ofDigitChars_ten_toDigits m, digits, Nat.ofDigitChars_ten_toDigits]

theorem containerId_injective {m n : Nat} (same : s!"ruleset-{m}" = s!"ruleset-{n}") : m = n := by
  have letters := congrArg String.toList same
  simp only [String.toList_append] at letters
  exact toString_injective (List.append_cancel_left letters)

theorem ruleId_injective {m n : Nat} (same : s!"rule-{m}" = s!"rule-{n}") : m = n := by
  have letters := congrArg String.toList same
  simp only [String.toList_append] at letters
  exact toString_injective (List.append_cancel_left letters)

section

variable {store after : Store}

theorem Addressed.of_containers_eq (addressed : store.Addressed)
    (containers : after.containers = store.containers) (issued : store.issued ≤ after.issued) :
    after.Addressed := by
  refine ⟨?_, fun n later => ?_⟩
  · rw [containers]
    exact addressed.keys
  · rw [containers]
    exact addressed.freshContainers n (Nat.lt_of_le_of_lt issued later)

theorem WellFormed.of_containers_eq (wellFormed : store.WellFormed)
    (containers : after.containers = store.containers) (issued : store.issued ≤ after.issued) :
    after.WellFormed := by
  obtain ⟨keys, freshContainers⟩ := wellFormed.addressed.of_containers_eq containers issued
  refine ⟨keys, ?_, freshContainers, fun n later => ?_⟩
  · rw [containers]
    exact wellFormed.ruleIds
  · rw [containers]
    exact wellFormed.freshRules n (Nat.lt_of_le_of_lt issued later)

theorem Addressed.provisioned (addressed : store.Addressed) (zoneId : String) (phase : Phase)
    (kind : String)
    (containers : after.containers = store.containers ++
      [Store.provisioned zoneId s!"ruleset-{store.issued + 1}" phase kind])
    (issued : after.issued = store.issued + 1) : after.Addressed := by
  have new : ∀ container ∈ store.containers,
      container.summary.id ≠ s!"ruleset-{store.issued + 1}" :=
    addressed.freshContainers (store.issued + 1) (Nat.lt_succ_self _)
  refine ⟨?_, fun n later => ?_⟩
  · rw [containers, List.map_append, List.nodup_append]
    refine ⟨addressed.keys, List.nodup_singleton _, fun key held key' new_key same => ?_⟩
    obtain ⟨container, member, rfl⟩ := List.mem_map.mp held
    obtain rfl := List.mem_singleton.mp new_key
    exact new container member (congrArg Prod.snd same)
  · rw [containers, List.forall_mem_append]
    rw [issued] at later
    refine ⟨addressed.freshContainers n (by omega), List.forall_mem_singleton.mpr fun same => ?_⟩
    have number := containerId_injective same
    omega

theorem WellFormed.provisioned (wellFormed : store.WellFormed) (zoneId : String) (phase : Phase)
    (kind : String)
    (containers : after.containers = store.containers ++
      [Store.provisioned zoneId s!"ruleset-{store.issued + 1}" phase kind])
    (issued : after.issued = store.issued + 1) : after.WellFormed := by
  obtain ⟨keys, freshContainers⟩ :=
    wellFormed.addressed.provisioned zoneId phase kind containers issued
  refine ⟨keys, ?_, freshContainers, fun n later => ?_⟩
  · rw [containers, List.forall_mem_append]
    refine ⟨wellFormed.ruleIds, List.forall_mem_singleton.mpr ?_⟩
    exact List.nodup_nil
  · rw [containers, List.forall_mem_append]
    rw [issued] at later
    refine ⟨wellFormed.freshRules n (by omega), List.forall_mem_singleton.mpr ?_⟩
    simp [Store.provisioned]

theorem Addressed.rewritten (addressed : store.Addressed) {front back : List Container}
    {container : Container} {rules : List RemoteRule}
    (shape : store.containers = front ++ container :: back)
    (containers : after.containers = front ++ { container with rules } :: back)
    (issued : store.issued ≤ after.issued) : after.Addressed := by
  obtain ⟨keys, freshContainers⟩ := addressed
  rw [shape] at keys freshContainers
  refine ⟨?_, fun n later => ?_⟩
  · rw [containers]
    simp only [List.map_append, List.map_cons] at keys ⊢
    exact keys
  · rw [containers]
    have kept := freshContainers n (Nat.lt_of_le_of_lt issued later)
    simpa only [List.forall_mem_append, List.forall_mem_cons] using kept

theorem WellFormed.rewritten (wellFormed : store.WellFormed) {front back : List Container}
    {container : Container} {rules : List RemoteRule}
    (shape : store.containers = front ++ container :: back)
    (containers : after.containers = front ++ { container with rules } :: back)
    (issued : store.issued ≤ after.issued) (ruleIds : (rules.map (·.id)).Nodup)
    (fresh : ∀ n, after.issued < n → ∀ rule ∈ rules, rule.id ≠ s!"rule-{n}") :
    after.WellFormed := by
  obtain ⟨keys, freshContainers⟩ := wellFormed.addressed.rewritten shape containers issued
  obtain ⟨-, ids, -, freshRules⟩ := wellFormed
  rw [shape] at ids freshRules
  refine ⟨keys, ?_, freshContainers, fun n later => ?_⟩
  · rw [containers]
    simp only [List.forall_mem_append, List.forall_mem_cons] at ids ⊢
    exact ⟨ids.1, ruleIds, ids.2.2⟩
  · rw [containers]
    have kept := freshRules n (Nat.lt_of_le_of_lt issued later)
    simp only [List.forall_mem_append, List.forall_mem_cons] at kept ⊢
    exact ⟨kept.1, fresh n later, kept.2.2⟩

end

end EdgePolicy.Store
