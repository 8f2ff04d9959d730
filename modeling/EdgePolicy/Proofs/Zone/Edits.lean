import Mathlib.Logic.Relation
import EdgePolicy.Proofs.Zone.Identifiers

/-
What the reconciliation of a tag may do to a platform.

An edit leaves the containers alone, provisions the missing container of a phase, or changes the
rules of the container that serves it: a rule of the tag is inserted, replaced in its place or
removed.  Everything else follows from the shape of one edit and from runs of edits: identifiers
stay distinct, rules of other tags stay as they are, and no two rules change their order.
-/

set_option autoImplicit false
set_option relaxedAutoImplicit false

namespace EdgePolicy

/-- One change of the rules of a container, of a rule with one of some tags.  The count of
identifiers goes from one number to another. -/
inductive RuleEdit (tags : String → Prop) :
    Nat → Nat → List RemoteRule → List RemoteRule → Prop
  | insert {issued : Nat} (front back : List RemoteRule) (rule : RemoteRule)
      (tagged : tags rule.tag) (numbered : rule.id = s!"rule-{issued + 1}") :
      RuleEdit tags issued (issued + 1) (front ++ back) (front ++ rule :: back)
  | replace {issued : Nat} (front back : List RemoteRule) (old new : RemoteRule)
      (tagged : tags old.tag) (retagged : tags new.tag) (same : new.id = old.id) :
      RuleEdit tags issued issued (front ++ old :: back) (front ++ new :: back)
  | remove {issued : Nat} (front back : List RemoteRule) (old : RemoteRule)
      (tagged : tags old.tag) :
      RuleEdit tags issued issued (front ++ old :: back) (front ++ back)

namespace RuleEdit

variable {tags : String → Prop} {issued issued' : Nat} {before after : List RemoteRule}

theorem mono {others : String → Prop} (edit : RuleEdit tags issued issued' before after)
    (wider : ∀ tag, tags tag → others tag) : RuleEdit others issued issued' before after := by
  cases edit with
  | insert front back rule tagged numbered =>
    exact .insert front back rule (wider _ tagged) numbered
  | replace front back old new tagged retagged same =>
    exact .replace front back old new (wider _ tagged) (wider _ retagged) same
  | remove front back old tagged => exact .remove front back old (wider _ tagged)

theorem issued_le (edit : RuleEdit tags issued issued' before after) : issued ≤ issued' := by
  cases edit <;> omega

theorem id_of_mem (edit : RuleEdit tags issued issued' before after) {rule : RemoteRule}
    (member : rule ∈ after) :
    rule.id ∈ before.map (·.id) ∨ rule.id = s!"rule-{issued + 1}" ∧ issued' = issued + 1 := by
  cases edit with
  | insert front back new tagged numbered =>
    rcases List.mem_append.mp member with inFront | inBack
    · exact .inl (List.mem_map.mpr ⟨rule, by simp [inFront], rfl⟩)
    · rcases List.mem_cons.mp inBack with rfl | inBack
      · exact .inr ⟨numbered, rfl⟩
      · exact .inl (List.mem_map.mpr ⟨rule, by simp [inBack], rfl⟩)
  | replace front back old new tagged retagged same =>
    left
    rcases List.mem_append.mp member with inFront | inBack
    · exact List.mem_map.mpr ⟨rule, by simp [inFront], rfl⟩
    · rcases List.mem_cons.mp inBack with rfl | inBack
      · exact List.mem_map.mpr ⟨old, by simp, same.symm⟩
      · exact List.mem_map.mpr ⟨rule, by simp [inBack], rfl⟩
  | remove front back old tagged =>
    left
    rcases List.mem_append.mp member with inFront | inBack
    · exact List.mem_map.mpr ⟨rule, by simp [inFront], rfl⟩
    · exact List.mem_map.mpr ⟨rule, by simp [inBack], rfl⟩

theorem tags_of_mem (edit : RuleEdit tags issued issued' before after)
    (tagged : ∀ rule ∈ before, tags rule.tag) : ∀ rule ∈ after, tags rule.tag := by
  cases edit with
  | insert front back rule new numbered =>
    simp only [List.forall_mem_append, List.forall_mem_cons] at tagged ⊢
    exact ⟨tagged.1, new, tagged.2⟩
  | replace front back old new was retagged same =>
    simp only [List.forall_mem_append, List.forall_mem_cons] at tagged ⊢
    exact ⟨tagged.1, retagged, tagged.2.2⟩
  | remove front back old was =>
    simp only [List.forall_mem_append, List.forall_mem_cons] at tagged ⊢
    exact ⟨tagged.1, tagged.2.2⟩

theorem nodup (edit : RuleEdit tags issued issued' before after)
    (ids : (before.map (·.id)).Nodup)
    (fresh : ∀ rule ∈ before, rule.id ≠ s!"rule-{issued + 1}") : (after.map (·.id)).Nodup := by
  cases edit with
  | insert front back rule tagged numbered =>
    have absent : rule.id ∉ (front ++ back).map (·.id) := by
      intro held
      obtain ⟨other, member, same⟩ := List.mem_map.mp held
      exact fresh other member (same.trans numbered)
    have moved : (front ++ rule :: back).Perm (rule :: (front ++ back)) := List.perm_middle
    exact (moved.map (·.id)).nodup_iff.mpr (List.nodup_cons.mpr ⟨absent, ids⟩)
  | replace front back old new tagged retagged same =>
    simpa only [List.map_append, List.map_cons, same] using ids
  | remove front back old tagged =>
    have kept : (front ++ back).Sublist (front ++ old :: back) :=
      (List.Sublist.refl front).append (List.sublist_cons_self old back)
    exact ids.sublist (kept.map (·.id))

theorem fresh (edit : RuleEdit tags issued issued' before after)
    (unused : ∀ n, issued < n → ∀ rule ∈ before, rule.id ≠ s!"rule-{n}") :
    ∀ n, issued' < n → ∀ rule ∈ after, rule.id ≠ s!"rule-{n}" := by
  intro n later rule held same
  rcases edit.id_of_mem held with old | ⟨numbered, issued⟩
  · obtain ⟨other, member, same'⟩ := List.mem_map.mp old
    exact unused n (Nat.lt_of_le_of_lt edit.issued_le later) other member (same'.trans same)
  · have number := Store.ruleId_injective (numbered.symm.trans same)
    omega

theorem others (edit : RuleEdit tags issued issued' before after) {keep : RemoteRule → Bool}
    (other : ∀ rule, tags rule.tag → keep rule = false) :
    after.filter keep = before.filter keep := by
  cases edit with
  | insert front back rule tagged numbered => simp [other rule tagged]
  | replace front back old new tagged retagged same => simp [other old tagged, other new retagged]
  | remove front back old tagged => simp [other old tagged]

/-- The identifiers that stand in both of two lists stand in them in the same order. -/
def SameOrder (before after : List String) : Prop :=
  before.filter (· ∈ after) = after.filter (· ∈ before)

theorem sameOrder (edit : RuleEdit tags issued issued' before after) {start : List String}
    (order : SameOrder start (before.map (·.id))) (ids : (before.map (·.id)).Nodup)
    (fresh : s!"rule-{issued + 1}" ∉ start) : SameOrder start (after.map (·.id)) := by
  unfold SameOrder at order ⊢
  cases edit with
  | insert front back rule tagged numbered =>
    -- The earlier list does not know the number of the new rule.
    have known : ∀ id ∈ start, id ≠ rule.id := fun id held same =>
      fresh (numbered ▸ same ▸ held)
    have left : start.filter (· ∈ (front ++ rule :: back).map (·.id)) =
        start.filter (· ∈ (front ++ back).map (·.id)) :=
      List.filter_congr fun id held => by simp [known id held]
    have dropped : rule.id ∉ start := fun held => known rule.id held rfl
    rw [left, order]
    simp [dropped]
  | replace front back old new tagged retagged same =>
    simpa only [List.map_append, List.map_cons, same] using order
  | remove front back old tagged =>
    have absent : old.id ∉ (front ++ back).map (·.id) := by
      have moved : (front ++ old :: back).Perm (old :: (front ++ back)) := List.perm_middle
      exact (List.nodup_cons.mp ((moved.map (·.id)).nodup_iff.mp ids)).1
    -- Both sides drop the one number of the removed rule.
    have left : start.filter (· ∈ (front ++ back).map (·.id)) =
        (start.filter (· ∈ (front ++ old :: back).map (·.id))).filter (· != old.id) := by
      rw [List.filter_filter]
      refine List.filter_congr fun id _ => ?_
      by_cases same : id = old.id
      · subst same
        simpa using absent
      · simp [same]
    have right : ((front ++ old :: back).map (·.id)).filter (· != old.id) =
        (front ++ back).map (·.id) := by
      simp only [List.map_append, List.map_cons, List.mem_append, not_or] at absent ⊢
      have kept : ∀ ids : List String, old.id ∉ ids → ids.filter (· != old.id) = ids :=
        fun ids other => List.filter_eq_self.mpr fun id held => by
          simpa using fun same : id = old.id => other (same ▸ held)
      simp [kept _ absent.1, kept _ absent.2]
    rw [left, order, List.filter_comm, right]

end RuleEdit

namespace Store

/-- One step of bringing tags of a zone to their desired states.  The targets are the tags, each
with the phase of its container. -/
inductive Edit (zoneId : String) (targets : Phase → String → Prop) (before after : Store) : Prop
  | keep (containers : after.containers = before.containers)
      (issued : before.issued ≤ after.issued)
  | provision (phase : Phase) (tag : String) (target : targets phase tag)
      (absent : before.serving? zoneId phase = none)
      (containers : after.containers = before.containers ++
        [provisioned zoneId s!"ruleset-{before.issued + 1}" phase "zone"])
      (issued : after.issued = before.issued + 1)
  | rewrite (phase : Phase) (front back : List Container) (container : Container)
      (rules : List RemoteRule) (shape : before.containers = front ++ container :: back)
      (absent : ∀ other ∈ front, other.servesIn zoneId phase = false)
      (serves : container.servesIn zoneId phase = true)
      (edit : RuleEdit (targets phase) before.issued after.issued container.rules rules)
      (containers : after.containers = front ++ { container with rules } :: back)

namespace Edit

variable {zoneId : String} {targets : Phase → String → Prop} {before after : Store}

theorem mono {wider : Phase → String → Prop} (edit : Edit zoneId targets before after)
    (included : ∀ phase tag, targets phase tag → wider phase tag) :
    Edit zoneId wider before after := by
  cases edit with
  | keep containers issued => exact .keep containers issued
  | provision phase tag target absent containers issued =>
    exact .provision phase tag (included phase tag target) absent containers issued
  | rewrite phase front back container rules shape absent serves edit containers =>
    exact .rewrite phase front back container rules shape absent serves
      (edit.mono (included phase)) containers

theorem issued_le (edit : Edit zoneId targets before after) : before.issued ≤ after.issued := by
  cases edit with
  | keep containers issued => exact issued
  | provision phase tag target absent containers issued => omega
  | rewrite phase front back container rules shape absent serves edit containers =>
    exact edit.issued_le

theorem wellFormed (edit : Edit zoneId targets before after) (wellFormed : before.WellFormed) :
    after.WellFormed := by
  cases edit with
  | keep containers issued => exact wellFormed.of_containers_eq containers issued
  | provision phase tag target absent containers issued =>
    exact wellFormed.provisioned zoneId phase "zone" containers issued
  | rewrite phase front back container rules shape absent serves edit containers =>
    have member : container ∈ before.containers := by simp [shape]
    have fresh := fun n later => wellFormed.freshRules n later container member
    exact wellFormed.rewritten shape containers edit.issued_le
      (edit.nodup (wellFormed.ruleIds container member) (fresh _ (Nat.lt_succ_self _)))
      (edit.fresh fresh)

theorem of_withRules (wellFormed : before.WellFormed) {phase : Phase} {container : Container}
    (serves : before.serving? zoneId phase = some container) {rules : List RemoteRule}
    (edit : RuleEdit (targets phase) before.issued after.issued container.rules rules)
    (containers : after.containers =
      (before.withRules zoneId container.summary.id rules).containers) :
    Edit zoneId targets before after ∧
      after.serving? zoneId phase = some { container with rules } := by
  obtain ⟨front, back, shape, absent, here, others⟩ := serving?_split wellFormed serves
  have same : container.is zoneId container.summary.id = true := by
    rw [Container.is, (serving?_eq_some serves).2.1]
    simp
  rw [withRules_containers shape others same] at containers
  refine ⟨.rewrite phase front back container rules shape absent here edit containers, ?_⟩
  exact List.find?_eq_some_iff_append.mpr
    ⟨here, front, back, containers, fun other inFront => by simp [absent other inFront]⟩

end Edit

end Store

end EdgePolicy
