import Mathlib.Data.String.Basic
import EdgePolicy.Proofs.Json.Compact

/-
Free values: JSON that is carried along without being interpreted.

What a document is read as has the members of every object in the order of their names
(`isSorted_of_value?`), and such a value is read back from the document that stands for it
(`value?_document`).  It is read back from a text as well, as long as its containers are not nested
too deep in what is written around it (`Value.Travels`) and its numbers are read back, which they
must be (`isReadable_of_rereadAt`).
-/

set_option autoImplicit false
set_option relaxedAutoImplicit false

namespace EdgePolicy.Json

open Reader (atDepth maxDepth)

mutual

/-- The number of containers around the innermost part of a value, the value itself included. -/
def Value.height : Value → Nat
  | .array items => itemsHeight items + 1
  | .object members => membersHeight members + 1
  | _ => 0

def itemsHeight : List Value → Nat
  | [] => 0
  | item :: rest => max item.height (itemsHeight rest)

def membersHeight : List (String × Value) → Nat
  | [] => 0
  | (_, value) :: rest => max value.height (membersHeight rest)

end

mutual

private theorem documentAt_eq : ∀ (value : Value) (depth : Nat), depth + value.height ≤ maxDepth →
    value.documentAt depth = value.document
  | .null, _, _ | .bool _, _, _ | .number _, _, _ | .string _, _, _ => rfl
  | .array items, depth, fits => by
    rw [Value.height] at fits
    have inner := itemDocumentsAt_eq items (depth + 1) (by omega)
    rw [Value.documentAt, inner, atDepth, if_pos (by omega), Value.document]
  | .object members, depth, fits => by
    rw [Value.height] at fits
    have inner := memberDocumentsAt_eq members (depth + 1) (by omega)
    rw [Value.documentAt, inner, atDepth, if_pos (by omega), Value.document]

private theorem itemDocumentsAt_eq : ∀ (items : List Value) (depth : Nat),
    depth + itemsHeight items ≤ maxDepth → itemDocumentsAt depth items = itemDocuments items
  | [], _, _ => rfl
  | item :: items, depth, fits => by
    rw [itemsHeight] at fits
    rw [itemDocumentsAt, itemDocuments, documentAt_eq item depth (by omega),
      itemDocumentsAt_eq items depth (by omega)]

private theorem memberDocumentsAt_eq : ∀ (members : List (String × Value)) (depth : Nat),
    depth + membersHeight members ≤ maxDepth →
    memberDocumentsAt depth members = memberDocuments members
  | [], _, _ => rfl
  | (name, value) :: members, depth, fits => by
    rw [membersHeight] at fits
    rw [memberDocumentsAt, memberDocuments, documentAt_eq value depth (by omega),
      memberDocumentsAt_eq members depth (by omega)]

end

namespace Value

/-- A value is read back from its text, wherever that stands at a depth. -/
def Travels (value : Value) (depth : Nat) : Prop :=
  value.isReadable = true ∧ depth + value.height ≤ maxDepth

variable {depth : Nat}

theorem Travels.null (low : depth ≤ maxDepth) : null.Travels depth := ⟨rfl, low⟩

theorem Travels.bool (b : Bool) (low : depth ≤ maxDepth) : (Value.bool b).Travels depth :=
  ⟨rfl, low⟩

theorem Travels.string (s : String) (low : depth ≤ maxDepth) : (Value.string s).Travels depth :=
  ⟨rfl, low⟩

theorem Travels.array {items : List Value} (low : depth < maxDepth)
    (inner : ∀ item ∈ items, item.Travels (depth + 1)) : (Value.array items).Travels depth := by
  unfold Travels
  rw [isReadable, height]
  induction items with
  | nil => exact ⟨rfl, low⟩
  | cons item items ih =>
    obtain ⟨⟨readable, high⟩, tail⟩ := List.forall_mem_cons.mp inner
    obtain ⟨readable', high'⟩ := ih tail
    refine ⟨Bool.and_eq_true_iff.mpr ⟨readable, readable'⟩, ?_⟩
    rw [itemsHeight]
    omega

theorem Travels.object {members : List (String × Value)} (low : depth < maxDepth)
    (inner : ∀ member ∈ members, member.2.Travels (depth + 1)) :
    (Value.object members).Travels depth := by
  unfold Travels
  rw [isReadable, height]
  induction members with
  | nil => exact ⟨rfl, low⟩
  | cons member members ih =>
    obtain ⟨⟨readable, high⟩, tail⟩ := List.forall_mem_cons.mp inner
    obtain ⟨readable', high'⟩ := ih tail
    refine ⟨Bool.and_eq_true_iff.mpr ⟨readable, readable'⟩, ?_⟩
    rw [membersHeight]
    omega

theorem Travels.optionalMember {α : Type} {name : String} {json : α → Value} {value : Option α}
    (inner : ∀ present, value = some present → (json present).Travels depth) :
    ∀ member ∈ optionalMember name json value, member.2.Travels depth := by
  cases value with
  | none => exact List.forall_mem_nil _
  | some present => exact List.forall_mem_singleton.mpr (inner present rfl)

theorem Travels.ofText?_texts {value : Value} (travels : value.Travels 0) :
    ∀ text ∈ value.texts, Document.ofText? text = some value.document := by
  have same : value.rereadAt 0 = value.document :=
    (rereadAt_eq value 0 travels.1).trans (documentAt_eq value 0 travels.2)
  intro text written
  rw [Json.ofText?_texts written, same]

theorem Travels.ofText? {value : Value} (travels : value.Travels 0) :
    Document.ofText? value.compact = some value.document :=
  travels.ofText?_texts _ List.mem_cons_self

end Value

mutual

/-- The members of every object in a value stand in the order of their names, each name once. -/
def Value.isSorted : Value → Bool
  | .array items => itemsAreSorted items
  | .object members => membersAreSorted members
  | _ => true

def itemsAreSorted : List Value → Bool
  | [] => true
  | item :: rest => item.isSorted && itemsAreSorted rest

def membersAreSorted : List (String × Value) → Bool
  | [] => true
  | (name, value) :: rest =>
    rest.all (name < ·.1) && value.isSorted && membersAreSorted rest

end

section Sorting

variable {α : Type}

private theorem insertMember_last {name : String} {value : α} {members : List (String × α)}
    (last : ∀ member ∈ members, member.1 < name) :
    insertMember name value members = members ++ [(name, value)] := by
  induction members with
  | nil => rfl
  | cons member members ih =>
    obtain ⟨head, tail⟩ := List.forall_mem_cons.mp last
    rw [insertMember, if_neg (ne_of_gt head), if_neg (lt_asymm head), ih tail, List.cons_append]

private theorem mem_insertMember {name : String} {value : α} {members : List (String × α)}
    {member : String × α} (within : member ∈ insertMember name value members) :
    member = (name, value) ∨ member ∈ members := by
  induction members with
  | nil => exact .inl (List.mem_singleton.mp within)
  | cons first members ih =>
    rw [insertMember] at within
    split at within
    · exact (List.mem_cons.mp within).imp_right (List.mem_cons_of_mem _)
    · split at within
      · exact List.mem_cons.mp within
      · rcases List.mem_cons.mp within with rfl | later
        · exact .inr List.mem_cons_self
        · exact (ih later).imp_right (List.mem_cons_of_mem _)

private theorem mem_insertMember_of_ne {name : String} {value : α} {members : List (String × α)}
    {member : String × α} (here : member ∈ members) (other : member.1 ≠ name) :
    member ∈ insertMember name value members := by
  induction members with
  | nil => nomatch here
  | cons first rest ih =>
    rw [insertMember]
    split
    · next same =>
      rcases List.mem_cons.mp here with rfl | later
      · exact absurd same.symm other
      · exact List.mem_cons_of_mem _ later
    · split
      · exact List.mem_cons_of_mem _ here
      · rcases List.mem_cons.mp here with rfl | later
        · exact List.mem_cons_self
        · exact List.mem_cons_of_mem _ (ih later)

private theorem mem_insertMember_self (name : String) (value : α) (members : List (String × α)) :
    (name, value) ∈ insertMember name value members := by
  induction members with
  | nil => exact List.mem_singleton_self _
  | cons first rest ih =>
    rw [insertMember]
    split
    · exact List.mem_cons_self
    · split
      · exact List.mem_cons_self
      · exact List.mem_cons_of_mem _ ih

private theorem sorted_insertMember {name : String} {value : α} {members : List (String × α)}
    (sorted : members.Pairwise (·.1 < ·.1)) :
    (insertMember name value members).Pairwise (·.1 < ·.1) := by
  induction members with
  | nil => exact List.pairwise_singleton _ _
  | cons first members ih =>
    obtain ⟨head, tail⟩ := List.pairwise_cons.mp sorted
    rw [insertMember]
    split
    · next same => exact List.pairwise_cons.mpr ⟨fun other later => same ▸ head other later, tail⟩
    · next different =>
      split
      · next before =>
        refine List.pairwise_cons.mpr ⟨fun other later => ?_, sorted⟩
        rcases List.mem_cons.mp later with rfl | later
        · exact before
        · exact lt_trans before (head other later)
      · next behind =>
        refine List.pairwise_cons.mpr ⟨fun other later => ?_, ih tail⟩
        rcases mem_insertMember later with rfl | later
        · exact lt_of_le_of_ne (not_lt.mp behind) (Ne.symm different)
        · exact head other later

end Sorting

theorem membersAreSorted_iff (members : List (String × Value)) :
    membersAreSorted members = true ↔
      members.Pairwise (·.1 < ·.1) ∧ ∀ member ∈ members, member.2.isSorted = true := by
  induction members with
  | nil => simp [membersAreSorted]
  | cons member members ih =>
    rw [membersAreSorted, Bool.and_eq_true, Bool.and_eq_true, ih, List.pairwise_cons,
      List.forall_mem_cons]
    simp only [List.all_eq_true, decide_eq_true_eq]
    tauto

theorem sortMembers_eq {members : List (String × Value)}
    (sorted : members.Pairwise (·.1 < ·.1)) : sortMembers members = members := by
  have behind : ∀ (members before : List (String × Value)),
      (before ++ members).Pairwise (·.1 < ·.1) →
      members.foldl (fun sorted member => insertMember member.1 member.2 sorted) before =
        before ++ members := by
    intro members
    induction members with
    | nil => exact fun before _ => (List.append_nil before).symm
    | cons member members ih =>
      intro before sorted
      have last := (List.pairwise_append.mp sorted).2.2
      rw [List.foldl_cons, insertMember_last fun other here =>
        last other here member List.mem_cons_self, ih, List.append_assoc, List.singleton_append]
      rwa [List.append_assoc, List.singleton_append]
  exact behind members [] sorted

theorem sortMembers_sorted (members : List (String × Value)) :
    (sortMembers members).Pairwise (·.1 < ·.1) ∧
      ∀ member ∈ sortMembers members, member ∈ members := by
  have onto : ∀ (members before : List (String × Value)), before.Pairwise (·.1 < ·.1) →
      (members.foldl (fun sorted member => insertMember member.1 member.2 sorted)
          before).Pairwise (·.1 < ·.1) ∧
        ∀ member ∈ members.foldl (fun sorted member => insertMember member.1 member.2 sorted)
          before, member ∈ members ∨ member ∈ before := by
    intro members
    induction members with
    | nil => exact fun before sorted => ⟨sorted, fun _ => .inr⟩
    | cons first members ih =>
      intro before sorted
      obtain ⟨sorted', within⟩ :=
        ih (insertMember first.1 first.2 before) (sorted_insertMember sorted)
      refine ⟨sorted', fun member here => ?_⟩
      rcases within member here with later | inserted
      · exact .inl (List.mem_cons_of_mem _ later)
      · rcases mem_insertMember inserted with rfl | held
        · exact .inl List.mem_cons_self
        · exact .inr held
  obtain ⟨sorted, within⟩ := onto members [] List.Pairwise.nil
  exact ⟨sorted, fun member here => (within member here).resolve_right (List.not_mem_nil)⟩

theorem mem_sortMembers {members : List (String × Value)}
    (distinct : (members.map Prod.fst).Nodup) (member : String × Value) :
    member ∈ sortMembers members ↔ member ∈ members := by
  refine ⟨(sortMembers_sorted members).2 member, ?_⟩
  -- The fold carries members that are already in order and have none of the names to come.
  have onto : ∀ (members before : List (String × Value)), (members.map Prod.fst).Nodup →
      (member ∈ before ∧ member.1 ∉ members.map Prod.fst) ∨ member ∈ members →
      member ∈ members.foldl (fun sorted member => insertMember member.1 member.2 sorted)
        before := by
    intro members
    induction members with
    | nil => exact fun before _ here => here.elim And.left (absurd · List.not_mem_nil)
    | cons first rest ih =>
      intro before distinct here
      obtain ⟨new, later⟩ := List.nodup_cons.mp distinct
      refine ih _ later ?_
      rcases here with ⟨held, unnamed⟩ | here
      · obtain ⟨other, unnamed⟩ := List.ne_and_not_mem_of_not_mem_cons unnamed
        exact .inl ⟨mem_insertMember_of_ne held other, unnamed⟩
      · rcases List.mem_cons.mp here with rfl | here
        · exact .inl ⟨mem_insertMember_self _ _ _, new⟩
        · exact .inr here
  exact fun here => onto members [] distinct (.inr here)

mutual

/-- A sorted value is read back from the document that stands for it. -/
theorem value?_document : ∀ value : Value, value.isSorted = true →
    value.document.value? = some value
  | .null, _ | .bool _, _ | .number _, _ | .string _, _ => rfl
  | .array items, sorted => by
    rw [Value.document, Document.value?, itemValues?_itemDocuments items sorted]
    rfl
  | .object members, sorted => by
    have held := memberValues?_memberDocuments members sorted
    have order := ((membersAreSorted_iff members).mp sorted).1
    rw [Value.document, Document.value?, held, Option.map_some, Value.record, sortMembers_eq order]

private theorem itemValues?_itemDocuments : ∀ items : List Value, itemsAreSorted items = true →
    itemValues? (itemDocuments items) = some items
  | [], _ => rfl
  | item :: items, sorted => by
    obtain ⟨head, tail⟩ := Bool.and_eq_true_iff.mp sorted
    rw [itemDocuments, itemValues?, value?_document item head, itemValues?_itemDocuments items tail]
    rfl

private theorem memberValues?_memberDocuments : ∀ members : List (String × Value),
    membersAreSorted members = true → memberValues? (memberDocuments members) = some members
  | [], _ => rfl
  | (name, value) :: members, sorted => by
    obtain ⟨head, tail⟩ := Bool.and_eq_true_iff.mp sorted
    rw [memberDocuments, memberValues?, value?_document value (Bool.and_eq_true_iff.mp head).2,
      memberValues?_memberDocuments members tail]
    rfl

end

mutual

/-- What a document is read as is sorted. -/
theorem isSorted_of_value? : ∀ (document : Document) (value : Value),
    document.value? = some value → value.isSorted = true
  | .null, _, rfl | .bool _, _, rfl => rfl
  | .number n, value, read => by
    obtain ⟨n', -, rfl⟩ := Option.map_eq_some_iff.mp read
    rfl
  | .string s, value, read => by
    obtain ⟨s', -, rfl⟩ := Option.map_eq_some_iff.mp read
    rfl
  | .array items, value, read => by
    obtain ⟨values, items', rfl⟩ := Option.map_eq_some_iff.mp read
    exact itemsAreSorted_of_itemValues? items values items'
  | .object members, value, read => by
    obtain ⟨values, members', rfl⟩ := Option.map_eq_some_iff.mp read
    obtain ⟨sorted, within⟩ := sortMembers_sorted values
    exact (membersAreSorted_iff _).mpr ⟨sorted, fun member here =>
      isSorted_of_memberValues? members values members' member (within member here)⟩

private theorem itemsAreSorted_of_itemValues? : ∀ (items : List Document) (values : List Value),
    itemValues? items = some values → itemsAreSorted values = true
  | [], _, rfl => rfl
  | item :: items, values, read => by
    simp only [itemValues?, Option.bind_eq_bind, Option.bind_eq_some_iff, Option.pure_def,
      Option.some.injEq] at read
    obtain ⟨value, head, rest, tail, rfl⟩ := read
    exact Bool.and_eq_true_iff.mpr
      ⟨isSorted_of_value? item value head, itemsAreSorted_of_itemValues? items rest tail⟩

private theorem isSorted_of_memberValues? : ∀ (members : List (Option String × Document))
    (values : List (String × Value)), memberValues? members = some values →
    ∀ member ∈ values, member.2.isSorted = true
  | [], _, rfl, _, here => nomatch here
  | (name, document) :: members, values, read, member, here => by
    simp only [memberValues?, Option.bind_eq_bind, Option.bind_eq_some_iff, Option.pure_def,
      Option.some.injEq] at read
    obtain ⟨name', -, value, head, rest, tail, rfl⟩ := read
    rcases List.mem_cons.mp here with rfl | later
    · exact isSorted_of_value? document value head
    · exact isSorted_of_memberValues? members rest tail member later

end

private theorem map_fst_of_memberValues? {depth : Nat} {members values : List (String × Value)}
    (read : memberValues? (membersRereadAt depth members) = some values) :
    values.map Prod.fst = members.map Prod.fst := by
  induction members generalizing values with
  | nil =>
    cases read
    rfl
  | cons member members ih =>
    simp only [membersRereadAt, memberValues?, Option.bind_eq_bind, Option.bind_eq_some_iff,
      Option.pure_def, Option.some.injEq] at read
    obtain ⟨_, rfl, value, -, rest, tail, rfl⟩ := read
    exact congrArg (member.1 :: ·) (ih tail)

mutual

/-- A sorted value that is read back from its text has numbers that are read back. -/
theorem isReadable_of_rereadAt : ∀ (value : Value) (depth : Nat), value.isSorted = true →
    (value.rereadAt depth).value? = some value → value.isReadable = true
  | .null, _, _, _ | .bool _, _, _, _ | .string _, _, _, _ => rfl
  | .number n, depth, _, read => by
    obtain ⟨n', back, same⟩ := Option.map_eq_some_iff.mp read
    cases same
    exact n.isReadable_iff.mpr back
  | .array items, depth, sorted, read => by
    rw [Value.rereadAt, atDepth] at read
    split at read
    · obtain ⟨values, inner, same⟩ := Option.map_eq_some_iff.mp read
      cases same
      exact itemsAreReadable_of_itemsRereadAt items (depth + 1) sorted inner
    · cases read
  | .object members, depth, sorted, read => by
    rw [Value.rereadAt, atDepth] at read
    split at read
    · obtain ⟨values, inner, same⟩ := Option.map_eq_some_iff.mp read
      have order := ((membersAreSorted_iff members).mp sorted).1
      have order' : values.Pairwise (·.1 < ·.1) := by
        rw [← List.pairwise_map (f := Prod.fst) (R := (· < ·))] at order ⊢
        rwa [map_fst_of_memberValues? inner]
      rw [Value.record, sortMembers_eq order'] at same
      rw [Value.object.inj same] at inner
      exact membersAreReadable_of_membersRereadAt members (depth + 1) sorted inner
    · cases read

private theorem itemsAreReadable_of_itemsRereadAt : ∀ (items : List Value) (depth : Nat),
    itemsAreSorted items = true → itemValues? (itemsRereadAt depth items) = some items →
    itemsAreReadable items = true
  | [], _, _, _ => rfl
  | item :: items, depth, sorted, read => by
    simp only [itemsRereadAt, itemValues?, Option.bind_eq_bind, Option.bind_eq_some_iff,
      Option.pure_def, Option.some.injEq, List.cons.injEq] at read
    obtain ⟨value, head, rest, tail, same, same'⟩ := read
    rw [same] at head
    rw [same'] at tail
    obtain ⟨sorted, sorted'⟩ := Bool.and_eq_true_iff.mp sorted
    exact Bool.and_eq_true_iff.mpr ⟨isReadable_of_rereadAt item depth sorted head,
      itemsAreReadable_of_itemsRereadAt items depth sorted' tail⟩

private theorem membersAreReadable_of_membersRereadAt : ∀ (members : List (String × Value))
    (depth : Nat),
    membersAreSorted members = true →
    memberValues? (membersRereadAt depth members) = some members →
    membersAreReadable members = true
  | [], _, _, _ => rfl
  | (name, value) :: members, depth, sorted, read => by
    simp only [membersRereadAt, memberValues?, Option.bind_eq_bind, Option.bind_eq_some_iff,
      Option.pure_def, Option.some.injEq, List.cons.injEq, Prod.mk.injEq] at read
    obtain ⟨_, -, _, head, _, tail, ⟨-, same⟩, same'⟩ := read
    rw [same] at head
    rw [same'] at tail
    obtain ⟨sorted, sorted'⟩ := Bool.and_eq_true_iff.mp sorted
    exact Bool.and_eq_true_iff.mpr
      ⟨isReadable_of_rereadAt value depth (Bool.and_eq_true_iff.mp sorted).2 head,
        membersAreReadable_of_membersRereadAt members depth sorted' tail⟩

end

end EdgePolicy.Json
