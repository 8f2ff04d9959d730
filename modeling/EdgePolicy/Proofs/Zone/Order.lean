import EdgePolicy.Proofs.Policy.Tags
import EdgePolicy.Proofs.Zone.Changes
import EdgePolicy.Zone.Placement

/-
The order of the rules of a container.

`Category.Precedes` says that the rules of one category stand before those of another.  A rule put
between a front and a back keeps that when neither of them holds what must stand on its other side
(`Precedes.insert`).  `Placed` says what stands in front of the place of a new rule and behind it,
read off the anchor of its category (`Category.placed`); where identifiers differ, that is where the
platform puts the rule (`Placed.index?`).
-/

set_option autoImplicit false
set_option relaxedAutoImplicit false

namespace EdgePolicy

/-- The rules of one category stand before those of another. -/
def Category.Precedes (first second : Category) (rules : List RemoteRule) : Prop :=
  rules.Pairwise fun earlier later =>
    second.ownsTag earlier.tag = true → first.ownsTag later.tag = false

/-- Rules with distinct identifiers, none of which is one that is still to be handed out. -/
structure Numbered (issued : Nat) (rules : List RemoteRule) : Prop where
  ids : (rules.map (·.id)).Nodup
  fresh : ∀ n, issued < n → ∀ rule ∈ rules, rule.id ≠ s!"rule-{n}"

namespace Numbered

variable {issued issued' : Nat} {rules rules' : List RemoteRule}

theorem nil (issued : Nat) : Numbered issued [] :=
  ⟨List.nodup_nil, fun _ _ _ member => nomatch member⟩

theorem mono (numbered : Numbered issued rules) (later : issued ≤ issued') :
    Numbered issued' rules :=
  ⟨numbered.ids, fun n next => numbered.fresh n (Nat.lt_of_le_of_lt later next)⟩

theorem edited {tags : String → Prop} (numbered : Numbered issued rules)
    (edit : RuleEdit tags issued issued' rules rules') : Numbered issued' rules' := by
  refine ⟨edit.nodup numbered.ids (numbered.fresh _ (Nat.lt_succ_self issued)), ?_⟩
  intro n later rule member same
  have grown := edit.issued_le
  rcases edit.id_of_mem member with old | ⟨new, count⟩
  · obtain ⟨other, member', id⟩ := List.mem_map.mp old
    exact numbered.fresh n (Nat.lt_of_le_of_lt grown later) other member' (id.trans same)
  · have number := Store.ruleId_injective (new.symm.trans same)
    omega

end Numbered

namespace Category.Precedes

variable {first second : Category} {front back rules rules' : List RemoteRule}

theorem nil (first second : Category) : first.Precedes second [] :=
  List.Pairwise.nil

theorem iff_lt (different : first ≠ second) :
    first.Precedes second rules ↔ ∀ i j (hi : i < rules.length) (hj : j < rules.length),
      first.ownsTag rules[i].tag = true → second.ownsTag rules[j].tag = true → i < j := by
  unfold Precedes
  rw [List.pairwise_iff_getElem]
  constructor
  · intro ordered i j hi hj inFirst inSecond
    rcases Nat.lt_trichotomy i j with less | same | greater
    · exact less
    · subst same
      exact absurd (Category.ownsTag_unique inFirst inSecond) different
    · exact nomatch inFirst.symm.trans (ordered j i hj hi greater inSecond)
  · intro ordered i j hi hj less inSecond
    by_contra inFirst
    have greater := ordered j i hj hi (eq_true_of_ne_false inFirst) inSecond
    omega

theorem sublist (ordered : first.Precedes second rules) (kept : rules'.Sublist rules) :
    first.Precedes second rules' :=
  List.Pairwise.sublist kept ordered

theorem insert (ordered : first.Precedes second (front ++ back)) (new : RemoteRule)
    (inFront : first.ownsTag new.tag = true → ∀ rule ∈ front, second.ownsTag rule.tag = false)
    (inBack : second.ownsTag new.tag = true → ∀ rule ∈ back, first.ownsTag rule.tag = false) :
    first.Precedes second (front ++ new :: back) := by
  unfold Precedes at ordered ⊢
  rw [List.pairwise_append] at ordered ⊢
  obtain ⟨before, behind, across⟩ := ordered
  refine ⟨before, List.pairwise_cons.mpr ⟨fun rule member owned => inBack owned rule member,
    behind⟩, ?_⟩
  intro earlier member later member' owned
  rcases List.mem_cons.mp member' with rfl | member'
  · by_contra late
    exact nomatch owned.symm.trans (inFront (eq_true_of_ne_false late) earlier member)
  · exact across earlier member later member' owned

theorem replace {old new : RemoteRule} (ordered : first.Precedes second (front ++ old :: back))
    (same : new.tag = old.tag) : first.Precedes second (front ++ new :: back) := by
  unfold Precedes at ordered ⊢
  simpa only [List.pairwise_append, List.pairwise_cons, List.forall_mem_cons, same] using ordered

private theorem of_first {rule : RemoteRule}
    (ordered : first.Precedes second (front ++ rule :: back))
    (owned : first.ownsTag rule.tag = true) :
    ∀ earlier ∈ front, second.ownsTag earlier.tag = false := by
  intro earlier member
  by_contra early
  obtain ⟨-, -, across⟩ := List.pairwise_append.mp ordered
  have other := across earlier member rule List.mem_cons_self (eq_true_of_ne_false early)
  exact nomatch owned.symm.trans other

theorem of_second {rule : RemoteRule} (ordered : first.Precedes second (front ++ rule :: back))
    (owned : second.ownsTag rule.tag = true) :
    ∀ later ∈ back, first.ownsTag later.tag = false := by
  intro later member
  obtain ⟨-, behind, -⟩ := List.pairwise_append.mp ordered
  exact (List.pairwise_cons.mp behind).1 later member owned

end Category.Precedes

/-- The category whose rules an anchor goes by. -/
def Anchor.category : Anchor → Category
  | beforeFirst category => category
  | afterLast category => category

/-- What stands in front of the place of a new rule, and what behind it, with the position that asks
for the place. -/
inductive Placed :
    Option Anchor → Option Position → List RemoteRule → List RemoteRule → Prop
  | unanchored (front : List RemoteRule) : Placed none none front []
  | missing (anchor : Anchor) (front : List RemoteRule)
      (absent : ∀ rule ∈ front, anchor.category.ownsTag rule.tag = false) :
      Placed (some anchor) none front []
  | before (category : Category) (front back : List RemoteRule) (rule : RemoteRule)
      (owned : category.ownsTag rule.tag = true)
      (first : ∀ earlier ∈ front, category.ownsTag earlier.tag = false) :
      Placed (some (.beforeFirst category)) (some (.before rule.id)) front (rule :: back)
  | after (category : Category) (front back : List RemoteRule) (rule : RemoteRule)
      (owned : category.ownsTag rule.tag = true)
      (last : ∀ later ∈ back, category.ownsTag later.tag = false) :
      Placed (some (.afterLast category)) (some (.after rule.id)) (front ++ [rule]) back

namespace Placed

variable {anchor : Anchor} {position? : Option Position} {category other : Category}
  {front back : List RemoteRule}

theorem front_of_beforeFirst (placed : Placed (some (.beforeFirst category)) position? front back) :
    ∀ rule ∈ front, category.ownsTag rule.tag = false := by
  cases placed with
  | missing anchor front absent => exact absent
  | before category front back rule owned first => exact first

theorem back_of_afterLast (placed : Placed (some (.afterLast category)) position? front back) :
    ∀ rule ∈ back, category.ownsTag rule.tag = false := by
  cases placed with
  | missing anchor front absent => exact fun rule member => nomatch member
  | after category front back rule owned last => exact last

theorem back_of_precedes (placed : Placed (some (.afterLast category)) position? front back)
    (ordered : other.Precedes category (front ++ back)) :
    ∀ rule ∈ back, other.ownsTag rule.tag = false := by
  cases placed with
  | missing anchor front absent => exact fun rule member => nomatch member
  | after category front back rule owned last =>
    rw [List.append_assoc, List.singleton_append] at ordered
    exact ordered.of_second owned

/-- What stands behind the category of an anchor does not stand before the place, unless a rule
goes to the end for want of the anchor. -/
theorem front_of_precedes (placed : Placed (some anchor) position? front back)
    (ordered : anchor.category.Precedes other (front ++ back)) (different : anchor.category ≠ other)
    (appended : position? = none → ∀ rule ∈ front ++ back, other.ownsTag rule.tag = false) :
    ∀ rule ∈ front, other.ownsTag rule.tag = false := by
  cases placed with
  | missing anchor front absent =>
    intro rule member
    exact appended rfl rule (List.mem_append_left _ member)
  | before category front back rule owned first => exact ordered.of_first owned
  | after category front back rule owned last =>
    rw [List.append_assoc, List.singleton_append] at ordered
    refine List.forall_mem_append.mpr ⟨ordered.of_first owned, ?_⟩
    refine List.forall_mem_singleton.mpr (Bool.eq_false_iff.mpr fun taken => ?_)
    exact different (Category.ownsTag_unique owned taken)

end Placed

private theorem findIdx?_middle {α : Type} {p : α → Bool} {front back : List α} {item : α}
    (absent : ∀ other ∈ front, p other = false) (here : p item = true) :
    (front ++ item :: back).findIdx? p = some front.length := by
  have none : front.findIdx? p = none := List.findIdx?_eq_none_iff.mpr absent
  rw [List.findIdx?_append, none, List.findIdx?_cons, if_pos here]
  simp

private theorem getLast?_filter_split {α : Type} {p : α → Bool} {items : List α} {item : α}
    (last : (items.filter p).getLast? = some item) :
    ∃ front back, items = front ++ item :: back ∧ p item = true ∧
      ∀ other ∈ back, p other = false := by
  rw [List.getLast?_eq_head?_reverse, ← List.filter_reverse, List.head?_filter] at last
  obtain ⟨here, back, front, shape, others⟩ := List.find?_eq_some_iff_append.mp last
  refine ⟨front.reverse, back.reverse, ?_, here, fun other member => ?_⟩
  · rw [← List.reverse_reverse items, shape]
    simp
  · simpa using others other (List.mem_reverse.mp member)

/-- A category places its new rule somewhere in every container. -/
theorem Category.placed (category : Category) (snapshot : Snapshot) :
    ∃ front back, snapshot.rules = front ++ back ∧
      Placed category.anchor? (category.position? snapshot) front back := by
  have absent : ∀ other, snapshot.ownedBy other = [] →
      ∀ rule ∈ snapshot.rules, other.ownsTag rule.tag = false := fun other none rule member =>
    Bool.eq_false_iff.mpr (List.filter_eq_nil_iff.mp none rule member)
  have whole : snapshot.rules = snapshot.rules ++ [] := (List.append_nil _).symm
  unfold Category.position?
  rcases category.anchor? with _ | ⟨other⟩ | ⟨other⟩
  · exact ⟨_, [], whole, .unanchored _⟩
  · show ∃ front back, _ ∧ Placed _ (Option.map _ (snapshot.ownedBy other).head?) front back
    cases first : (snapshot.ownedBy other).head? with
    | none =>
      have none := absent other (List.head?_eq_none_iff.mp first)
      exact ⟨_, [], whole, .missing (.beforeFirst other) _ none⟩
    | some rule =>
      obtain ⟨rest, owned⟩ := List.head?_eq_some_iff.mp first
      obtain ⟨front, back, shape, others, here, -⟩ := List.filter_eq_cons_iff.mp owned
      refine ⟨front, rule :: back, shape, .before other front back rule here ?_⟩
      exact fun earlier member => Bool.eq_false_iff.mpr (others earlier member)
  · show ∃ front back, _ ∧ Placed _ (Option.map _ (snapshot.ownedBy other).getLast?) front back
    cases last : (snapshot.ownedBy other).getLast? with
    | none =>
      have none := absent other (List.getLast?_eq_none_iff.mp last)
      exact ⟨_, [], whole, .missing (.afterLast other) _ none⟩
    | some rule =>
      obtain ⟨front, back, shape, here, others⟩ := getLast?_filter_split last
      refine ⟨front ++ [rule], back, ?_, .after other front back rule here others⟩
      rw [shape, List.append_assoc, List.singleton_append]

/-- Where identifiers differ, the platform puts a new rule where its category places it. -/
theorem Placed.index? {anchor? : Option Anchor} {position? : Option Position}
    {front back : List RemoteRule} (placed : Placed anchor? position? front back)
    (ids : ((front ++ back).map (·.id)).Nodup) :
    Store.index? (front ++ back) position? = .ok front.length := by
  -- A rule is found where it stands, since no rule in front of it has its identifier.
  have found : ∀ (earlier later : List RemoteRule) (rule : RemoteRule),
      ((earlier ++ rule :: later).map (·.id)).Nodup →
        (earlier ++ rule :: later).findIdx? (·.id == rule.id) = some earlier.length := by
    intro earlier later rule ids
    rw [List.map_append, List.map_cons, List.nodup_middle, List.nodup_cons] at ids
    refine findIdx?_middle (fun other member => beq_false_of_ne fun same => ?_)
      (beq_self_eq_true rule.id)
    exact ids.1 (List.mem_append_left _ (List.mem_map.mpr ⟨other, member, same⟩))
  cases placed with
  | unanchored => simp [Store.index?]
  | missing anchor front absent => simp [Store.index?]
  | before category front back rule owned first =>
    simp only [Store.index?, found front back rule ids]
  | after category front back rule owned last =>
    have shape : front ++ [rule] ++ back = front ++ rule :: back := by simp
    rw [shape] at ids ⊢
    simp only [Store.index?, found front back rule ids, List.length_append, List.length_singleton]

end EdgePolicy
