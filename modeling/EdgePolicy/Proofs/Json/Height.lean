import EdgePolicy.Proofs.Json.Free

/-
What is read from a text is not nested too deep.

The reader leaves a hole in the place of a container that stands too deep, so that the height of a
document is bounded by the depth at which it is read (`height_document?`).  A free value is not
higher than the document it is read from (`height_value?`), and a part of a document is lower than
the whole.
-/

set_option autoImplicit false
set_option relaxedAutoImplicit false

namespace EdgePolicy.Json

open Reader (atDepth document? items? maxDepth members?)

mutual

/-- The number of containers around the innermost part of a document, itself included. -/
def Document.height : Document → Nat
  | .array items => itemDocumentsHeight items + 1
  | .object members => memberDocumentsHeight members + 1
  | _ => 0

def itemDocumentsHeight : List Document → Nat
  | [] => 0
  | item :: rest => max item.height (itemDocumentsHeight rest)

def memberDocumentsHeight : List (Option String × Document) → Nat
  | [] => 0
  | (_, document) :: rest => max document.height (memberDocumentsHeight rest)

end

private theorem height_atDepth {depth height : Nat} {document : Document}
    (shape : document.height = height + 1) (inner : height ≤ maxDepth - (depth + 1)) :
    (atDepth depth document).height ≤ maxDepth - depth := by
  unfold atDepth
  split
  · omega
  · exact Nat.zero_le _

mutual

/-- A document is not too high for the depth at which it is read. -/
theorem height_document? : ∀ (fuel depth : Nat) (cs : List Char) (document : Document)
    (rest : List Char), document? fuel depth cs = some (document, rest) →
    document.height ≤ maxDepth - depth
  | 0, _, _, _, _, read => nomatch read
  | fuel + 1, depth, cs, document, rest, read => by
    rw [document?] at read
    split at read
    · obtain ⟨_, -, same⟩ := Option.bind_eq_some_iff.mp read
      cases same
      exact Nat.zero_le _
    · obtain ⟨_, -, same⟩ := Option.bind_eq_some_iff.mp read
      cases same
      exact Nat.zero_le _
    · obtain ⟨_, -, same⟩ := Option.bind_eq_some_iff.mp read
      cases same
      exact Nat.zero_le _
    · obtain ⟨_, -, same⟩ := Option.bind_eq_some_iff.mp read
      cases same
      exact Nat.zero_le _
    · split at read
      · cases read
        exact height_atDepth rfl (Nat.zero_le _)
      · obtain ⟨⟨items, _⟩, inner, same⟩ := Option.bind_eq_some_iff.mp read
        cases same
        exact height_atDepth rfl (height_items? fuel (depth + 1) _ _ _ inner)
    · split at read
      · cases read
        exact height_atDepth rfl (Nat.zero_le _)
      · obtain ⟨⟨members, _⟩, inner, same⟩ := Option.bind_eq_some_iff.mp read
        cases same
        exact height_atDepth rfl (height_members? fuel (depth + 1) _ _ _ inner)
    · obtain ⟨_, -, same⟩ := Option.bind_eq_some_iff.mp read
      cases same
      exact Nat.zero_le _

private theorem height_items? : ∀ (fuel depth : Nat) (cs : List Char) (items : List Document)
    (rest : List Char), items? fuel depth cs = some (items, rest) →
    itemDocumentsHeight items ≤ maxDepth - depth
  | 0, _, _, _, _, read => nomatch read
  | fuel + 1, depth, cs, items, rest, read => by
    rw [items?] at read
    obtain ⟨⟨item, behind⟩, first, read⟩ := Option.bind_eq_some_iff.mp read
    have head := height_document? fuel depth cs item behind first
    simp only at read
    split at read
    · obtain ⟨⟨more, _⟩, later, same⟩ := Option.bind_eq_some_iff.mp read
      have tail := height_items? fuel depth _ _ _ later
      cases same
      exact max_le head tail
    · cases read
      exact max_le head (Nat.zero_le _)
    · cases read

private theorem height_members? : ∀ (fuel depth : Nat) (cs : List Char)
    (members : List (Option String × Document)) (rest : List Char),
    members? fuel depth cs = some (members, rest) →
    memberDocumentsHeight members ≤ maxDepth - depth
  | 0, _, _, _, _, read => nomatch read
  | fuel + 1, depth, cs, members, rest, read => by
    rw [members?] at read
    split at read
    · obtain ⟨⟨name, _⟩, -, read⟩ := Option.bind_eq_some_iff.mp read
      obtain ⟨_, -, read⟩ := Option.bind_eq_some_iff.mp read
      obtain ⟨⟨document, behind⟩, first, read⟩ := Option.bind_eq_some_iff.mp read
      have head := height_document? fuel depth _ document behind first
      simp only at read
      split at read
      · obtain ⟨⟨more, _⟩, later, same⟩ := Option.bind_eq_some_iff.mp read
        have tail := height_members? fuel depth _ _ _ later
        cases same
        exact max_le head tail
      · cases read
        exact max_le head (Nat.zero_le _)
      · cases read
    · cases read

end

theorem Document.height_ofText? {text : String} {document : Document}
    (read : Document.ofText? text = some document) : document.height ≤ maxDepth := by
  obtain ⟨⟨whole, rest⟩, inner, ended⟩ := Option.bind_eq_some_iff.mp read
  simp only [Option.ite_none_right_eq_some, Option.some.injEq] at ended
  obtain ⟨-, rfl⟩ := ended
  exact height_document? _ 0 _ _ _ inner

theorem itemDocumentsHeight_ge {items : List Document} {item : Document} (member : item ∈ items) :
    item.height ≤ itemDocumentsHeight items := by
  induction items with
  | nil => exact nomatch member
  | cons first items ih =>
    rw [itemDocumentsHeight]
    rcases List.mem_cons.mp member with rfl | later
    · exact le_max_left _ _
    · exact (ih later).trans (le_max_right _ _)

theorem memberDocumentsHeight_ge {members : List (Option String × Document)}
    {member : Option String × Document} (within : member ∈ members) :
    member.2.height ≤ memberDocumentsHeight members := by
  induction members with
  | nil => exact nomatch within
  | cons first members ih =>
    rw [memberDocumentsHeight]
    rcases List.mem_cons.mp within with rfl | later
    · exact le_max_left _ _
    · exact (ih later).trans (le_max_right _ _)

private theorem membersHeight_le {members : List (String × Value)} {bound : Nat}
    (low : ∀ member ∈ members, member.2.height ≤ bound) : membersHeight members ≤ bound := by
  induction members with
  | nil => exact Nat.zero_le _
  | cons member members ih =>
    obtain ⟨head, tail⟩ := List.forall_mem_cons.mp low
    exact max_le head (ih tail)

mutual

/-- A free value is not higher than the document it is read from. -/
theorem height_value? : ∀ (document : Document) (value : Value), document.value? = some value →
    value.height ≤ document.height
  | .null, _, rfl | .bool _, _, rfl => le_rfl
  | .number n, value, read => by
    obtain ⟨n', -, rfl⟩ := Option.map_eq_some_iff.mp read
    exact le_rfl
  | .string s, value, read => by
    obtain ⟨s', -, rfl⟩ := Option.map_eq_some_iff.mp read
    exact le_rfl
  | .array items, value, read => by
    obtain ⟨values, inner, rfl⟩ := Option.map_eq_some_iff.mp read
    exact Nat.succ_le_succ (height_itemValues? items values inner)
  | .object members, value, read => by
    obtain ⟨values, inner, rfl⟩ := Option.map_eq_some_iff.mp read
    have low := height_memberValues? members values inner
    exact Nat.succ_le_succ (membersHeight_le fun member here =>
      low member ((sortMembers_sorted values).2 member here))

private theorem height_itemValues? : ∀ (items : List Document) (values : List Value),
    itemValues? items = some values → itemsHeight values ≤ itemDocumentsHeight items
  | [], _, rfl => le_rfl
  | item :: items, values, read => by
    simp only [itemValues?, Option.bind_eq_bind, Option.bind_eq_some_iff, Option.pure_def,
      Option.some.injEq] at read
    obtain ⟨value, head, rest, tail, rfl⟩ := read
    exact max_le_max (height_value? item value head) (height_itemValues? items rest tail)

private theorem height_memberValues? : ∀ (members : List (Option String × Document))
    (values : List (String × Value)), memberValues? members = some values →
    ∀ member ∈ values, member.2.height ≤ memberDocumentsHeight members
  | [], _, rfl, _, here => nomatch here
  | (name, document) :: members, values, read, member, here => by
    simp only [memberValues?, Option.bind_eq_bind, Option.bind_eq_some_iff, Option.pure_def,
      Option.some.injEq] at read
    obtain ⟨_, -, value, head, rest, tail, rfl⟩ := read
    rw [memberDocumentsHeight]
    rcases List.mem_cons.mp here with rfl | later
    · exact (height_value? document value head).trans (le_max_left _ _)
    · exact (height_memberValues? members rest tail member later).trans (le_max_right _ _)

end

end EdgePolicy.Json
