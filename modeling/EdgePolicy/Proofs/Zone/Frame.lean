import Mathlib.Data.List.Forall2
import EdgePolicy.Proofs.Zone.Edits

/-
What a run of edits leaves as it was.

`Framed` compares the platform at the start of a run with the platform at its end.  Every container
stands where it stood; only the container that serves the phase of a target may have other rules,
and of its rules only those with the tag of a target.  The containers that came to it serve phases
that had none, and hold no other rules than those of targets.
-/

set_option autoImplicit false
set_option relaxedAutoImplicit false

namespace EdgePolicy

/-- A container after a run in which only rules with some tags may have changed. -/
structure Container.Persists (tags : String → Prop) (container container' : Container) : Prop where
  zone : container'.zoneId = container.zoneId
  summary : container'.summary = container.summary
  others : ∀ keep : RemoteRule → Bool, (∀ rule, tags rule.tag → keep rule = false) →
    container'.rules.filter keep = container.rules.filter keep
  order : RuleEdit.SameOrder (container.rules.map (·.id)) (container'.rules.map (·.id))

theorem Container.Persists.refl (tags : String → Prop) (container : Container) :
    container.Persists tags container :=
  ⟨rfl, rfl, fun _ _ => rfl, rfl⟩

theorem Container.Persists.mono {tags wider : String → Prop} {container container' : Container}
    (persists : container.Persists tags container') (included : ∀ tag, tags tag → wider tag) :
    container.Persists wider container' :=
  { persists with others := fun keep other =>
      persists.others keep fun rule tagged => other rule (included _ tagged) }

theorem Container.Persists.servesIn {tags : String → Prop} {container container' : Container}
    (persists : container.Persists tags container') (zoneId : String) (phase : Phase) :
    container'.servesIn zoneId phase = container.servesIn zoneId phase := by
  rw [Container.servesIn, Container.servesIn, persists.zone, persists.summary]

private theorem Container.Persists.eq_of_spared {tags : String → Prop}
    {container container' : Container} (persists : container.Persists tags container')
    (spared : ∀ tag, ¬ tags tag) :
    container' = container := by
  have rules := persists.others (fun _ => true) fun rule tagged => absurd tagged (spared rule.tag)
  rw [List.filter_true, List.filter_true] at rules
  cases container'
  cases container
  cases persists.zone
  cases persists.summary
  cases rules
  rfl

namespace Store

/-- The tags of the targets whose phase a container serves. -/
def touched (store : Store) (zoneId : String) (targets : Phase → String → Prop)
    (container : Container) (tag : String) : Prop :=
  ∃ phase, targets phase tag ∧ store.serving? zoneId phase = some container

/-- A container that came to a zone for the phase of a target. -/
structure Provided (store : Store) (zoneId : String) (targets : Phase → String → Prop)
    (container : Container) : Prop where
  zone : container.zoneId = zoneId
  needed : ∃ phase tag, targets phase tag ∧ store.serving? zoneId phase = none ∧
    container.summary.phase = phase.word
  rules : ∀ phase, container.summary.phase = phase.word →
    ∀ rule ∈ container.rules, targets phase rule.tag

/-- The containers after a run: those of the start, and those that came to them. -/
def Framed (zoneId : String) (targets : Phase → String → Prop) (start after : Store) : Prop :=
  ∃ held added, after.containers = held ++ added ∧
    List.Forall₂ (fun container => container.Persists (start.touched zoneId targets container))
      start.containers held ∧
    ∀ container ∈ added, start.Provided zoneId targets container

abbrev Edits (zoneId : String) (targets : Phase → String → Prop) : Store → Store → Prop :=
  Relation.ReflTransGen (Edit zoneId targets)

theorem forall₂_split {α β : Type} {R : α → β → Prop} {items : List α} {front back : List β}
    {item : β} (related : List.Forall₂ R items (front ++ item :: back)) :
    ∃ front' item' back', items = front' ++ item' :: back' ∧ List.Forall₂ R front' front ∧
      R item' item ∧ List.Forall₂ R back' back := by
  induction front generalizing items with
  | nil =>
    obtain ⟨item', back', here, rest, rfl⟩ := List.forall₂_cons_right_iff.mp related
    exact ⟨[], item', back', rfl, .nil, here, rest⟩
  | cons first front ih =>
    obtain ⟨first', items', here, rest, rfl⟩ := List.forall₂_cons_right_iff.mp related
    obtain ⟨front', item', back', rfl, before, same, behind⟩ := ih rest
    exact ⟨first' :: front', item', back', rfl, .cons here before, same, behind⟩

private theorem append_split {α : Type} {held added front back : List α} {item : α}
    (shape : held ++ added = front ++ item :: back) :
    (∃ back', held = front ++ item :: back' ∧ back = back' ++ added) ∨
      ∃ front', front = held ++ front' ∧ added = front' ++ item :: back := by
  rcases List.append_eq_append_iff.mp shape with ⟨front', inFront, rest⟩ | ⟨rest, inHeld, behind⟩
  · exact .inr ⟨front', inFront, rest⟩
  · cases rest with
    | nil =>
      right
      exact ⟨[], by simpa using inHeld.symm, by simpa using behind.symm⟩
    | cons first back' =>
      obtain ⟨rfl, rfl⟩ := List.cons.inj behind
      exact .inl ⟨back', inHeld, rfl⟩

private theorem find?_of_forall₂ {α β : Type} {R : α → β → Prop} {p : α → Bool} {q : β → Bool}
    (agree : ∀ item item', R item item' → q item' = p item) {items : List α} {items' : List β}
    (related : List.Forall₂ R items items') :
    Option.Rel R (items.find? p) (items'.find? q) := by
  induction related with
  | nil => exact .none
  | @cons item item' rest rest' here behind ih =>
    rw [List.find?_cons, List.find?_cons, agree item item' here]
    cases p item with
    | true => exact .some here
    | false => exact ih

section Persists

variable {tags : Container → String → Prop} {zoneId : String} {phase : Phase}

private theorem find?_of_persists {kept held : List Container}
    (persist : List.Forall₂ (fun container => container.Persists (tags container)) kept held)
    (zoneId : String) (phase : Phase) :
    Option.Rel (fun container => container.Persists (tags container))
      (kept.find? (Container.servesIn zoneId phase))
      (held.find? (Container.servesIn zoneId phase)) :=
  find?_of_forall₂ (fun _ _ persists => persists.servesIn zoneId phase) persist

private theorem find?_before {front front' back' : List Container}
    {container container' : Container}
    (before : List.Forall₂ (fun container => container.Persists (tags container)) front' front)
    (persists : container'.Persists (tags container') container)
    (absent : ∀ other ∈ front, other.servesIn zoneId phase = false)
    (serves : container.servesIn zoneId phase = true) :
    (front' ++ container' :: back').find? (Container.servesIn zoneId phase) = some container' := by
  have found := find?_of_persists before zoneId phase
  have missing : front.find? (Container.servesIn zoneId phase) = none :=
    List.find?_eq_none.mpr fun other inFront => by simp [absent other inFront]
  have missing' : front'.find? (Container.servesIn zoneId phase) = none := by
    cases found' : front'.find? (Container.servesIn zoneId phase) with
    | none => rfl
    | some other =>
      rw [found', missing] at found
      nomatch found
  rw [persists.servesIn] at serves
  rw [List.find?_append, missing', Option.none_or, List.find?_cons_of_pos serves]

end Persists

namespace Framed

variable {zoneId : String} {targets : Phase → String → Prop} {start now after : Store}

theorem refl : Framed zoneId targets start start :=
  ⟨start.containers, [], by simp, List.forall₂_same.mpr fun _ _ => .refl _ _, by simp⟩

theorem serving?_some (framed : Framed zoneId targets start after) {other : String} {phase : Phase}
    {container : Container} (serves : start.serving? other phase = some container) :
    ∃ container', after.serving? other phase = some container' ∧
      container.Persists (start.touched zoneId targets container) container' := by
  obtain ⟨held, added, containers, persist, -⟩ := framed
  have found := find?_of_persists persist other phase
  unfold Store.serving? at serves ⊢
  rw [serves] at found
  cases found' : held.find? (Container.servesIn other phase) with
  | none =>
    rw [found'] at found
    nomatch found
  | some container' =>
    rw [found'] at found
    cases found with
    | some persists =>
      exact ⟨container', by rw [containers, List.find?_append, found']; rfl, persists⟩

private theorem persists_edit {tags edited : String → Prop} {container container' : Container}
    {rules : List RemoteRule} {issued issued' : Nat} (persists : container.Persists tags container')
    (edit : RuleEdit edited issued issued' container'.rules rules)
    (contained : ∀ tag, edited tag → tags tag) (ids : (container'.rules.map (·.id)).Nodup)
    (fresh : ∀ rule ∈ container.rules, rule.id ≠ s!"rule-{issued + 1}") :
    container.Persists tags { container' with rules } := by
  have unknown : s!"rule-{issued + 1}" ∉ container.rules.map (·.id) := by
    intro held
    obtain ⟨rule, member, same⟩ := List.mem_map.mp held
    exact fresh rule member same
  refine ⟨persists.zone, persists.summary, fun keep other => ?_, ?_⟩
  · have kept := edit.others fun rule tagged => other rule (contained _ tagged)
    exact kept.trans (persists.others keep other)
  · exact edit.sameOrder persists.order ids unknown

theorem step (framed : Framed zoneId targets start now) (wellFormed : start.WellFormed)
    (wellFormed' : now.WellFormed) (issued : start.issued ≤ now.issued)
    (edit : Edit zoneId targets now after) : Framed zoneId targets start after := by
  have served := framed
  obtain ⟨held, added, shape, persist, provided⟩ := framed
  cases edit with
  | keep containers _ => exact ⟨held, added, containers.trans shape, persist, provided⟩
  | provision phase tag target absent containers _ =>
    refine ⟨held, added ++ [provisioned zoneId s!"ruleset-{now.issued + 1}" phase "zone"],
      by rw [containers, shape, List.append_assoc], persist, ?_⟩
    refine List.forall_mem_append.mpr ⟨provided, List.forall_mem_singleton.mpr ⟨rfl, ?_, ?_⟩⟩
    · refine ⟨phase, tag, target, ?_, rfl⟩
      cases serves : start.serving? zoneId phase with
      | none => rfl
      | some container =>
        obtain ⟨container', serves', -⟩ := served.serving?_some serves
        rw [absent] at serves'
        nomatch serves'
    · exact fun _ _ => List.forall_mem_nil _
  | rewrite phase front back container rules shape' absent serves edit containers =>
    have member : container ∈ now.containers := by simp [shape']
    rcases append_split (shape.symm.trans shape') with ⟨back', rfl, rfl⟩ | ⟨front', rfl, rfl⟩
    -- The container stood at the start.
    · obtain ⟨front₀, container₀, back₀, shape₀, before, persists, behind⟩ := forall₂_split persist
      have serves₀ : start.serving? zoneId phase = some container₀ := by
        rw [Store.serving?, shape₀]
        exact find?_before before persists absent serves
      refine ⟨front ++ { container with rules } :: back', added,
        by rw [containers, List.append_assoc, List.cons_append], ?_, provided⟩
      rw [shape₀]
      refine List.rel_append before (.cons (persists_edit persists edit ?_ ?_ ?_) behind)
      · exact fun tag target => ⟨phase, target, serves₀⟩
      · exact wellFormed'.ruleIds container member
      · exact wellFormed.freshRules _ (by omega) container₀ (by simp [shape₀])
    -- It came during the run.
    · refine ⟨held, front' ++ { container with rules } :: back,
        by rw [containers, List.append_assoc], persist, ?_⟩
      simp only [List.forall_mem_append, List.forall_mem_cons] at provided ⊢
      obtain ⟨inFront, here, behind⟩ := provided
      refine ⟨inFront, ⟨here.zone, here.needed, fun phase' same rule held' => ?_⟩, behind⟩
      have word : container.summary.phase = phase.word := by
        simp only [Container.servesIn, ContainerSummary.serves, Bool.and_eq_true,
          beq_iff_eq] at serves
        exact serves.2.1
      obtain rfl : phase' = phase := Phase.word_injective (same.symm.trans word)
      exact edit.tags_of_mem (here.rules phase' same) rule held'

private theorem serving?_none (framed : Framed zoneId targets start after) {other : String}
    {phase : Phase} (absent : start.serving? other phase = none) :
    after.serving? other phase = none ∨
      ∃ container, after.serving? other phase = some container ∧
        start.Provided zoneId targets container := by
  obtain ⟨held, added, containers, persist, provided⟩ := framed
  have found := find?_of_persists persist other phase
  unfold Store.serving? at absent ⊢
  rw [absent] at found
  cases found' : held.find? (Container.servesIn other phase) with
  | some container =>
    rw [found'] at found
    nomatch found
  | none =>
    rw [containers, List.find?_append, found', Option.none_or]
    cases came : added.find? (Container.servesIn other phase) with
    | none => exact .inl rfl
    | some container =>
      exact .inr ⟨container, rfl, provided container (List.mem_of_find?_eq_some came)⟩

/-- The rules of a tag that is no target stay as they are, and so do those of other zones. -/
theorem tagged_other (framed : Framed zoneId targets start after) {other tag : String}
    {phase : Phase} (spared : other ≠ zoneId ∨ ¬ targets phase tag) :
    after.tagged other phase tag = start.tagged other phase tag := by
  cases serves : start.serving? other phase with
  | some container =>
    obtain ⟨container', serves', persists⟩ := framed.serving?_some serves
    rw [tagged_of_serving serves, tagged_of_serving serves']
    refine persists.others _ fun rule ⟨phase', target, serves''⟩ => ?_
    obtain ⟨-, zone, here⟩ := serving?_eq_some serves
    obtain ⟨-, zone'', here''⟩ := serving?_eq_some serves''
    obtain rfl : phase = phase' := ContainerSummary.serves_injective here here''
    refine beq_false_of_ne fun same => ?_
    rcases spared with elsewhere | spared
    · exact elsewhere (zone.symm.trans zone'')
    · exact spared (same ▸ target)
  | none =>
    rw [tagged_of_none serves]
    rcases framed.serving?_none serves with absent | ⟨container, serves', provided⟩
    · exact tagged_of_none absent tag
    · rw [tagged_of_serving serves', List.filter_eq_nil_iff]
      intro rule member
      obtain ⟨-, zone, here⟩ := serving?_eq_some serves'
      have target := provided.rules phase (ContainerSummary.phase_of_serves here) rule member
      rw [beq_iff_eq]
      rintro rfl
      rcases spared with elsewhere | spared
      · exact elsewhere (zone.symm.trans provided.zone)
      · exact spared target

theorem untouched (framed : Framed zoneId targets start after) {container : Container}
    (member : container ∈ start.containers)
    (spared : ∀ phase tag, targets phase tag → start.serving? zoneId phase ≠ some container) :
    container ∈ after.containers := by
  obtain ⟨held, added, containers, persist, -⟩ := framed
  obtain ⟨front, back, shape⟩ := List.append_of_mem member
  rw [shape] at persist
  obtain ⟨front', container', back', rfl, -, persists, -⟩ := forall₂_split persist.flip
  obtain rfl := persists.eq_of_spared fun tag ⟨phase, target, serves⟩ =>
    spared phase tag target serves
  rw [containers]
  simp

theorem forall₂ (framed : Framed zoneId targets start after)
    (served : ∀ phase tag, targets phase tag → (start.serving? zoneId phase).isSome = true) :
    List.Forall₂ (fun container => container.Persists (start.touched zoneId targets container))
      start.containers after.containers := by
  obtain ⟨held, added, containers, persist, provided⟩ := framed
  cases added with
  | nil => rwa [containers, List.append_nil]
  | cons container more =>
    obtain ⟨phase, tag, target, absent, -⟩ := (provided container List.mem_cons_self).needed
    have found := served phase tag target
    rw [absent] at found
    nomatch found

theorem elsewhere (framed : Framed zoneId targets start after) {other : String}
    (different : other ≠ zoneId) : after.containers.filter (·.zoneId == other) =
      start.containers.filter (·.zoneId == other) := by
  obtain ⟨held, added, containers, persist, provided⟩ := framed
  have came : added.filter (·.zoneId == other) = [] :=
    List.filter_eq_nil_iff.mpr fun container member same =>
      different ((beq_iff_eq.mp same).symm.trans (provided container member).zone)
  rw [containers, List.filter_append, came, List.append_nil]
  clear containers came provided
  generalize start.containers = kept at persist
  induction persist with
  | nil => rfl
  | @cons container container' rest rest' persists behind ih =>
    rw [List.filter_cons, List.filter_cons, persists.zone, ih]
    split
    · rename_i here
      have zone : container.zoneId = other := beq_iff_eq.mp here
      rw [persists.eq_of_spared fun tag ⟨phase, _, serves⟩ =>
        different (zone.symm.trans (serving?_eq_some serves).2.1)]
    · rfl

end Framed

namespace Edits

variable {zoneId : String} {targets : Phase → String → Prop} {start after : Store}

theorem mono {wider : Phase → String → Prop} (edits : Edits zoneId targets start after)
    (included : ∀ phase tag, targets phase tag → wider phase tag) :
    Edits zoneId wider start after :=
  Relation.ReflTransGen.mono (fun _ _ edit => Edit.mono edit included) _ _ edits

theorem wellFormed (edits : Edits zoneId targets start after) (wellFormed : start.WellFormed) :
    after.WellFormed := by
  induction edits with
  | refl => exact wellFormed
  | tail _ edit ih => exact edit.wellFormed ih

theorem issued_le (edits : Edits zoneId targets start after) : start.issued ≤ after.issued := by
  induction edits with
  | refl => exact Nat.le_refl _
  | tail _ edit ih => exact Nat.le_trans ih edit.issued_le

theorem framed (edits : Edits zoneId targets start after) (wellFormed : start.WellFormed) :
    Framed zoneId targets start after := by
  induction edits with
  | refl => exact .refl
  | tail before edit ih =>
    have before' : Edits zoneId targets start _ := before
    exact ih.step wellFormed (before'.wellFormed wellFormed) before'.issued_le edit

end Edits

end Store

end EdgePolicy
