import EdgePolicy.Proofs.Json.Layout

/-
Compact texts are read back.

A value is read from its text as the document `documentAt`, whose containers are holes where they
are nested too deep, if every number in it is read back (`rereadAt_eq`).  The text of a number may
go on in what follows it, every other text is closed: `isWorded` says that a value holds no number,
and then it is read back whatever follows (`document?_worded`).
-/

set_option autoImplicit false
set_option relaxedAutoImplicit false

namespace EdgePolicy.Json

open Reader (atDepth document?)
open Writer (compact compactItems compactMembers)

mutual

/-- No number occurs in a value. -/
def Value.isWorded : Value → Bool
  | .number _ => false
  | .array items => itemsAreWorded items
  | .object members => membersAreWorded members
  | _ => true

def itemsAreWorded : List Value → Bool
  | [] => true
  | item :: rest => item.isWorded && itemsAreWorded rest

def membersAreWorded : List (String × Value) → Bool
  | [] => true
  | (_, value) :: rest => value.isWorded && membersAreWorded rest

end

mutual

/-- Every number in a value is read back from its text. -/
def Value.isReadable : Value → Bool
  | .number n => n.isReadable
  | .array items => itemsAreReadable items
  | .object members => membersAreReadable members
  | _ => true

def itemsAreReadable : List Value → Bool
  | [] => true
  | item :: rest => item.isReadable && itemsAreReadable rest

def membersAreReadable : List (String × Value) → Bool
  | [] => true
  | (_, value) :: rest => value.isReadable && membersAreReadable rest

end

mutual

/-- What the text of a value is read as at a depth, when its numbers are read back. -/
def Value.documentAt (depth : Nat) : Value → Document
  | .null => .null
  | .bool b => .bool b
  | .number n => .number (some n)
  | .string s => .string (some s)
  | .array items => atDepth depth (.array (itemDocumentsAt (depth + 1) items))
  | .object members => atDepth depth (.object (memberDocumentsAt (depth + 1) members))

def itemDocumentsAt (depth : Nat) : List Value → List Document
  | [] => []
  | item :: rest => item.documentAt depth :: itemDocumentsAt depth rest

def memberDocumentsAt (depth : Nat) : List (String × Value) → List (Option String × Document)
  | [] => []
  | (name, value) :: rest => (some name, value.documentAt depth) :: memberDocumentsAt depth rest

end

mutual

theorem isReadable_of_isWorded : ∀ value : Value, value.isWorded = true → value.isReadable = true
  | .null, _ | .bool _, _ | .string _, _ => rfl
  | .array items, worded => itemsAreReadable_of_itemsAreWorded items worded
  | .object members, worded => membersAreReadable_of_membersAreWorded members worded

private theorem itemsAreReadable_of_itemsAreWorded : ∀ items :
    List Value, itemsAreWorded items = true →
    itemsAreReadable items = true
  | [], _ => rfl
  | item :: items, worded => by
    obtain ⟨head, rest⟩ := Bool.and_eq_true_iff.mp worded
    exact Bool.and_eq_true_iff.mpr
      ⟨isReadable_of_isWorded item head, itemsAreReadable_of_itemsAreWorded items rest⟩

private theorem membersAreReadable_of_membersAreWorded : ∀ members : List (String × Value),
    membersAreWorded members = true → membersAreReadable members = true
  | [], _ => rfl
  | (_, value) :: members, worded => by
    obtain ⟨head, rest⟩ := Bool.and_eq_true_iff.mp worded
    exact Bool.and_eq_true_iff.mpr
      ⟨isReadable_of_isWorded value head, membersAreReadable_of_membersAreWorded members rest⟩

end

mutual

/-- Values whose numbers are read back are read as they stand. -/
theorem rereadAt_eq : ∀ (value : Value) (depth : Nat), value.isReadable = true →
    value.rereadAt depth = value.documentAt depth
  | .null, _, _ | .bool _, _, _ | .string _, _, _ => rfl
  | .number n, _, readable => congrArg Document.number (n.isReadable_iff.mp readable)
  | .array items, depth, readable => by
    rw [Value.rereadAt, Value.documentAt, itemsRereadAt_eq items (depth + 1) readable]
  | .object members, depth, readable => by
    rw [Value.rereadAt, Value.documentAt, membersRereadAt_eq members (depth + 1) readable]

private theorem itemsRereadAt_eq : ∀ (items : List Value)
    (depth : Nat), itemsAreReadable items = true →
    itemsRereadAt depth items = itemDocumentsAt depth items
  | [], _, _ => rfl
  | item :: items, depth, readable => by
    obtain ⟨head, tail⟩ := Bool.and_eq_true_iff.mp readable
    rw [itemsRereadAt, itemDocumentsAt, rereadAt_eq item depth head,
      itemsRereadAt_eq items depth tail]

private theorem membersRereadAt_eq : ∀ (members : List (String × Value)) (depth : Nat),
    membersAreReadable members = true →
    membersRereadAt depth members = memberDocumentsAt depth members
  | [], _, _ => rfl
  | (_, value) :: members, depth, readable => by
    obtain ⟨head, tail⟩ := Bool.and_eq_true_iff.mp readable
    rw [membersRereadAt, memberDocumentsAt, rereadAt_eq value depth head,
      membersRereadAt_eq members depth tail]

end

theorem compactItems_pos (items : List Value) : 0 < (compactItems items).length := by
  cases items <;> simp [compactItems]

theorem compactMembers_pos (members : List (String × Value)) :
    0 < (compactMembers members).length := by
  cases members <;> simp [compactMembers]

/-- The text of a value without numbers is read back, whatever follows. -/
theorem document?_worded {value : Value} (worded : value.isWorded = true) (fuel depth : Nat)
    (rest : List Char) (long : (compact value).length ≤ fuel) :
    document? (fuel + 1) depth (compact value ++ rest) = some (value.documentAt depth, rest) := by
  rw [← rereadAt_eq value depth (isReadable_of_isWorded value worded)]
  rw [← Layout.chars_compact value 0] at long ⊢
  refine Layout.compact.document?_chars value 0 fuel depth rest (fun n same => ?_) long
  rw [same] at worded
  cases worded

theorem compact_cancel {value other : Value} (worded : value.isWorded = true)
    (worded' : other.isWorded = true) {rest rest' : List Char}
    (same : compact value ++ rest = compact other ++ rest') :
    rest = rest' ∧ value.documentAt 0 = other.documentAt 0 := by
  have read := document?_worded worded
    ((compact value).length + (compact other).length) 0 rest (Nat.le_add_right _ _)
  have read' := document?_worded worded'
    ((compact value).length + (compact other).length) 0 rest' (Nat.le_add_left _ _)
  rw [same, read'] at read
  obtain ⟨documents, rests⟩ := Prod.mk.inj (Option.some.inj read)
  exact ⟨rests.symm, documents.symm⟩

/-- The whole text of a value is read as the document of the value, if no number in it is read
as another one and no container is nested too deep. -/
theorem ofText?_compact {value : Value} (readable : value.isReadable = true)
    (shallow : value.documentAt 0 = value.document) :
    Document.ofText? value.compact = some value.document := by
  rw [ofText?_compactText, rereadAt_eq value 0 readable, shallow]

end EdgePolicy.Json
