import Mathlib.Data.List.SplitBy
import EdgePolicy.Condition.Group

/-
Groups and flat lists say the same.

A flat list falls apart exactly where a condition joins by `or` (`segments_flatten`), and the
canonical joins put an `or` nowhere but at the beginning of a group.  So partitioning the flat list
of some groups gives the groups back in canonical form (`partition_flatten`), also when all of them
begin with `or` (`partition_tagged`), and flattening the groups of a flat list gives the list back
with canonical joins (`flatten_partition`).
-/

set_option autoImplicit false
set_option relaxedAutoImplicit false

namespace EdgePolicy

namespace Group

variable {leading : Join} {conditions : List Condition} {groups : List Group}

@[simp]
theorem tagged_conditions (group : Group) (leading : Join) :
    (group.tagged leading).conditions = joins leading group.conditions := rfl

theorem eq_of_conditions {one other : Group} (same : one.conditions = other.conditions) :
    one = other := by
  cases one
  cases other
  congr

@[simp]
theorem joins_joins (one other : Join) (conditions : List Condition) :
    joins one (joins other conditions) = joins one conditions := by
  cases conditions with
  | nil => rfl
  | cons first rest => simp [joins, Condition.joined, Function.comp_def]

@[simp]
theorem tagged_tagged (group : Group) (one other : Join) :
    (group.tagged other).tagged one = group.tagged one :=
  eq_of_conditions (joins_joins one other group.conditions)

theorem canonical_canonical (groups : List Group) :
    canonical (canonical groups) = canonical groups := by
  simp [canonical, List.mapIdx_mapIdx, Function.comp_def]

private theorem canonical_map_tagged (leading : Join) (groups : List Group) :
    canonical (groups.map fun group => group.tagged leading) = canonical groups := by
  apply List.ext_getElem?
  intro index
  simp [canonical, List.getElem?_mapIdx, Function.comp_def]

private theorem mem_tail_joins {c : Condition} (member : c ∈ (joins leading conditions).tail) :
    c.join = .and := by
  cases conditions with
  | nil => exact nomatch member
  | cons first rest =>
    obtain ⟨-, -, rfl⟩ := List.mem_map.mp member
    rfl

private theorem mem_joins {c : Condition} (member : c ∈ joins leading conditions) :
    ∃ original ∈ conditions, ∃ join, c = original.joined join := by
  cases conditions with
  | nil => exact nomatch member
  | cons first rest =>
    rcases List.mem_cons.mp member with rfl | member
    · exact ⟨first, List.mem_cons_self, leading, rfl⟩
    · obtain ⟨original, listed, rfl⟩ := List.mem_map.mp member
      exact ⟨original, List.mem_cons_of_mem first listed, .and, rfl⟩

theorem mem_canonical {group : Group} (member : group ∈ canonical groups) {c : Condition}
    (listed : c ∈ group.conditions) :
    ∃ group' ∈ groups, ∃ original ∈ group'.conditions, ∃ join, c = original.joined join := by
  obtain ⟨index, bound, rfl⟩ := List.mem_mapIdx.mp member
  exact ⟨groups[index], List.getElem_mem bound, mem_joins listed⟩

private theorem head?_joins {c : Condition} (head : (joins leading conditions).head? = some c) :
    c.join = leading := by
  cases conditions with
  | nil => exact nomatch head
  | cons first rest =>
    obtain rfl := Option.some.inj head
    rfl

/-- A flat list whose conditions join by `or` exactly at the borders of some blocks falls apart into
the blocks. -/
theorem segments_flatten {blocks : List (List Condition)} (filled : [] ∉ blocks)
    (inner : ∀ block ∈ blocks, ∀ c ∈ block.tail, c.join ≠ .or)
    (borders : ∀ block ∈ blocks.tail, ∀ c, block.head? = some c → c.join = .or) :
    segments blocks.flatten = blocks := by
  refine List.splitBy_flatten filled (fun block member => ?_) ?_
  · rw [List.isChain_iff_getElem]
    intro index bound
    have inTail : block[index + 1] ∈ block.tail := by
      rw [List.mem_iff_getElem]
      exact ⟨index, by simp; omega, by simp⟩
    simpa using inner block member _ inTail
  · rw [List.isChain_iff_getElem]
    intro index bound
    have inTail : blocks[index + 1] ∈ blocks.tail := by
      rw [List.mem_iff_getElem]
      exact ⟨index, by simp; omega, by simp⟩
    have before : blocks[index] ≠ [] := fun empty => filled (empty ▸ List.getElem_mem _)
    have behind : blocks[index + 1] ≠ [] := fun empty => filled (empty ▸ List.getElem_mem _)
    have opens := borders _ inTail _ (List.head?_eq_some_head behind)
    exact ⟨before, behind, by simp [opens]⟩

private theorem filterMap_ofList? (groups : List Group) :
    (groups.map (·.conditions)).filterMap ofList? = groups := by
  simp [List.filterMap_map, ofList?_conditions]

private theorem partition_flatMap {groups : List Group}
    (inner : ∀ group ∈ groups, ∀ c ∈ group.conditions.tail, c.join ≠ .or)
    (borders : ∀ group ∈ groups.tail, ∀ c, group.conditions.head? = some c → c.join = .or) :
    partition (groups.flatMap (·.conditions)) = canonical groups := by
  have filled : [] ∉ groups.map (·.conditions) := by
    intro member
    obtain ⟨group, -, empty⟩ := List.mem_map.mp member
    exact group.nonempty empty
  have blocks : segments (groups.map (·.conditions)).flatten = groups.map (·.conditions) := by
    refine segments_flatten filled ?_ ?_
    · simpa using inner
    · rw [← List.map_tail, List.forall_mem_map]
      exact borders
  rw [partition, List.flatMap_def, blocks, filterMap_ofList?]

/-- Groups that all begin with `or` keep their boundaries in a flat list. -/
theorem partition_tagged (groups : List Group) :
    partition (groups.flatMap fun group => (group.tagged .or).conditions) = canonical groups := by
  have flat : (groups.flatMap fun group => (group.tagged .or).conditions) =
      (groups.map fun group => group.tagged .or).flatMap (·.conditions) := by
    rw [List.flatMap_map]
  rw [flat, partition_flatMap, canonical_map_tagged]
  · rw [List.forall_mem_map]
    intro group _ c inTail
    simp [mem_tail_joins inTail]
  · rw [← List.map_tail, List.forall_mem_map]
    exact fun group _ c head => head?_joins head

/-- The flat list of some groups is partitioned into the groups with canonical joins. -/
theorem partition_flatten (groups : List Group) : partition (flatten groups) = canonical groups := by
  rw [flatten, partition_flatMap, canonical_canonical]
  · intro group member c inTail
    obtain ⟨index, bound, rfl⟩ := List.mem_mapIdx.mp member
    simp [mem_tail_joins inTail]
  · intro group member c head
    obtain ⟨index, found⟩ := List.mem_iff_getElem?.mp member
    rw [canonical, List.getElem?_tail, List.getElem?_mapIdx, Option.map_eq_some_iff] at found
    obtain ⟨original, -, rfl⟩ := found
    exact head?_joins head

private theorem conditions_of_segments (conditions : List Condition) :
    ((segments conditions).filterMap ofList?).map (·.conditions) = segments conditions := by
  have filled : ∀ block ∈ segments conditions, block ≠ [] := fun block member =>
    List.ne_nil_of_mem_splitBy member
  rw [List.map_filterMap]
  refine (List.filterMap_congr fun block member => ?_).trans List.filterMap_some
  simp [ofList?, filled block member]

theorem mem_partition {group : Group} (member : group ∈ partition conditions) {c : Condition}
    (listed : c ∈ group.conditions) :
    ∃ original ∈ conditions, ∃ join, c = original.joined join := by
  obtain ⟨group', cut, original, inGroup, join, rfl⟩ := mem_canonical member listed
  have isBlock : group'.conditions ∈ segments conditions :=
    conditions_of_segments conditions ▸ List.mem_map_of_mem cut
  have inFlat : original ∈ (segments conditions).flatten :=
    List.mem_flatten.mpr ⟨_, isBlock, inGroup⟩
  rw [segments, List.flatten_splitBy] at inFlat
  exact ⟨original, inFlat, join, rfl⟩

theorem partition_ne_nil (nonempty : conditions ≠ []) : partition conditions ≠ [] := by
  intro none
  have empty : (segments conditions).filterMap ofList? = [] := by
    simpa [partition, canonical] using none
  have uncut : segments conditions = [] := by
    rw [← conditions_of_segments, empty, List.map_nil]
  exact List.splitBy_ne_nil.mpr nonempty uncut

private theorem join_of_mem_segments {block : List Condition} (member : block ∈ segments conditions)
    {c : Condition} (inTail : c ∈ block.tail) : c.join ≠ .or := by
  have chain := List.isChain_of_mem_splitBy member
  obtain ⟨index, bound, rfl⟩ := List.mem_iff_getElem.mp inTail
  rw [List.length_tail] at bound
  have step := List.isChain_iff_getElem.mp chain index (by omega)
  simpa using step

private theorem join_of_head?_segments {block : List Condition}
    (member : block ∈ (segments conditions).tail) {c : Condition} (head : block.head? = some c) :
    c.join = .or := by
  have chain : (segments conditions).IsChain fun _ next =>
      ∃ filled : next ≠ [], ((next.head filled).join != .or) = false :=
    (List.isChain_getLast_head_splitBy (fun _ next : Condition => next.join != .or)
      conditions).imp fun _ _ ⟨_, filled, opens⟩ => ⟨filled, opens⟩
  obtain ⟨index, bound, rfl⟩ := List.mem_iff_getElem.mp member
  rw [List.length_tail] at bound
  obtain ⟨filled, opens⟩ := List.isChain_iff_getElem.mp chain index (by omega)
  rw [List.getElem_tail, List.head?_eq_some_head filled] at head
  obtain rfl := Option.some.inj head
  simpa using opens

/-- The canonical join of a condition by its index in a flat list and the join it had: the first
one joins by `none`, a later one by `or` if it did before, and any other by `and`. -/
def flatJoin (index : Nat) (join : Join) : Join :=
  if index = 0 then .none else if join = .or then .or else .and

/-- The canonical join of a condition by the index of its group and its own index in the group. -/
def groupJoin (place index : Nat) : Join := if index = 0 then leadingJoin place else .and

theorem joins_eq_mapIdx (leading : Join) (conditions : List Condition) :
    joins leading conditions =
      conditions.mapIdx fun index c => c.joined (if index = 0 then leading else .and) := by
  cases conditions with
  | nil => rfl
  | cons first rest =>
    rw [joins, List.mapIdx_cons]
    exact congrArg _ (List.mapIdx_eq_iff.mpr fun index => by simp).symm

private theorem canonical_conditions (groups : List Group) :
    (canonical groups).map (·.conditions) = groups.mapIdx fun place group =>
      group.conditions.mapIdx fun index c => c.joined (groupJoin place index) := by
  refine (List.mapIdx_eq_iff.mpr fun place => ?_).symm
  rw [List.getElem?_map, canonical, List.getElem?_mapIdx, Option.map_map]
  simp only [Function.comp_def, tagged_conditions, joins_eq_mapIdx, groupJoin]

private theorem canonical_cons (group : Group) (groups : List Group) :
    canonical (group :: groups) =
      group.tagged .none :: groups.map fun group => group.tagged .or := by
  rw [canonical, List.mapIdx_cons]
  exact congrArg _ (List.mapIdx_eq_iff.mpr fun index => by simp [leadingJoin])

private theorem mapIdx_flatJoin_succ (conditions : List Condition) :
    conditions.mapIdx (fun index c => c.joined (flatJoin (index + 1) c.join)) =
      conditions.map fun c => c.joined (flatJoin 1 c.join) :=
  List.mapIdx_eq_iff.mpr fun index => by simp [flatJoin]

private theorem map_joined_and {rest : List Condition} (inner : ∀ c ∈ rest, c.join ≠ .or) :
    rest.map (·.joined .and) = rest.map fun c => c.joined (flatJoin 1 c.join) :=
  List.map_congr_left fun c member => by simp [flatJoin, inner c member]

private theorem joins_or {block : List Condition} (inner : ∀ c ∈ block.tail, c.join ≠ .or)
    (opens : ∀ c, block.head? = some c → c.join = .or) :
    joins .or block = block.map fun c => c.joined (flatJoin 1 c.join) := by
  cases block with
  | nil => rfl
  | cons first rest =>
    rw [List.tail_cons] at inner
    rw [joins, List.map_cons, map_joined_and inner]
    simp [flatJoin, opens first rfl]

/-- Partitioned and flattened again, a flat list has its conditions in their order, with canonical
joins. -/
theorem flatten_partition (conditions : List Condition) :
    flatten (partition conditions) =
      conditions.mapIdx fun index c => c.joined (flatJoin index c.join) := by
  have inner := fun block (member : block ∈ segments conditions) c =>
    join_of_mem_segments member (c := c)
  have borders := fun block (member : block ∈ (segments conditions).tail) c =>
    join_of_head?_segments member (c := c)
  have whole : (segments conditions).flatten = conditions := List.flatten_splitBy _ _
  rw [flatten, partition, canonical_canonical]
  rw [← conditions_of_segments conditions] at inner borders whole
  conv_rhs => rw [← whole]
  generalize (segments conditions).filterMap ofList? = parts at inner borders ⊢
  cases parts with
  | nil => rfl
  | cons group groups =>
    obtain ⟨first, rest, shape⟩ := List.exists_cons_of_ne_nil group.nonempty
    simp only [List.map_cons, List.forall_mem_cons, List.tail_cons, List.forall_mem_map, shape]
      at inner borders
    obtain ⟨within, inner⟩ := inner
    have behind : (groups.map fun group => group.tagged .or).flatMap (·.conditions) =
        (groups.map (·.conditions)).flatten.map fun c => c.joined (flatJoin 1 c.join) := by
      rw [List.flatMap_map, ← List.flatMap_def, List.map_flatMap]
      exact List.flatMap_congr fun group member =>
        joins_or (inner group member) (borders group member)
    calc (canonical (group :: groups)).flatMap (·.conditions)
        = joins .none group.conditions ++
            (groups.map (·.conditions)).flatten.map fun c => c.joined (flatJoin 1 c.join) := by
          rw [canonical_cons, List.flatMap_cons, tagged_conditions, behind]
      _ = first.joined .none :: (rest ++ (groups.map (·.conditions)).flatten).map
            fun c => c.joined (flatJoin 1 c.join) := by
          rw [shape, joins, map_joined_and within, List.map_append, List.cons_append]
      _ = ((group :: groups).map (·.conditions)).flatten.mapIdx
            fun index c => c.joined (flatJoin index c.join) := by
          rw [List.map_cons, List.flatten_cons, shape, List.cons_append, List.mapIdx_cons,
            mapIdx_flatJoin_succ]
          rfl

/-- Flat lists and groups say the same up to the joins that are canonical.  A flat list is
partitioned into groups that are not empty and flattens back to its conditions in their order;
groups flatten to a list that is partitioned into the groups with their conditions in their order;
and the joins that come back depend on what was joined by `or` in the flat list, and on the places
in the groups. -/
theorem partition_flatten_inverse (conditions : List Condition) (groups : List Group) :
    flatten (partition conditions) =
        conditions.mapIdx (fun index c => c.joined (flatJoin index c.join)) ∧
      [] ∉ (partition conditions).map (·.conditions) ∧
      partition (flatten (partition conditions)) = partition conditions ∧
      (partition (flatten groups)).map (·.conditions) = groups.mapIdx fun place group =>
        group.conditions.mapIdx fun index c => c.joined (groupJoin place index) := by
  refine ⟨flatten_partition conditions, fun member => ?_, ?_, ?_⟩
  · obtain ⟨group, -, empty⟩ := List.mem_map.mp member
    exact group.nonempty empty
  · rw [partition_flatten, partition, canonical_canonical]
  · rw [partition_flatten, canonical_conditions]

end Group

end EdgePolicy
