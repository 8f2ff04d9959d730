import EdgePolicy.Proofs.Json.Literals
import EdgePolicy.Proofs.Json.Strings

/-
Written texts are read, wherever blanks stand in them.

A layout says which blanks are written behind commas and opening marks, in front of closing marks
and behind colons.  In every layout a value is read from its text as the document `rereadAt`
(`document?_chars`), whose containers are holes where they are nested too deep, and whose numbers
are what their texts are read as.  The text of a number may go on in what follows it.
-/

set_option autoImplicit false
set_option relaxedAutoImplicit false

namespace EdgePolicy.Json

open EdgePolicy.Text (isGap)
open Reader (atDepth document? items? literal? members? skipBlanks text?)
open Writer (boolText stringText)

mutual

/-- What the text of a value is read as at a depth. -/
def Value.rereadAt (depth : Nat) : Value → Document
  | .null => .null
  | .bool b => .bool b
  | .number n => .number n.reread
  | .string s => .string (some s)
  | .array items => atDepth depth (.array (itemsRereadAt (depth + 1) items))
  | .object members => atDepth depth (.object (membersRereadAt (depth + 1) members))

def itemsRereadAt (depth : Nat) : List Value → List Document
  | [] => []
  | item :: rest => item.rereadAt depth :: itemsRereadAt depth rest

def membersRereadAt (depth : Nat) : List (String × Value) → List (Option String × Document)
  | [] => []
  | (name, value) :: rest => (some name, value.rereadAt depth) :: membersRereadAt depth rest

end

/-- The blanks of a text: those of a line break at a level, and those behind a colon. -/
structure Layout where
  gap : Nat → List Char
  space : List Char
  blank_gap : ∀ level, ∀ c ∈ gap level, isGap c = true
  blank_space : ∀ c ∈ space, isGap c = true

namespace Layout

mutual

/-- The text of a value that stands at a level. -/
def chars (layout : Layout) (level : Nat) : Value → List Char
  | .null => ['n', 'u', 'l', 'l']
  | .bool b => boolText b
  | .number n => n.text
  | .string s => stringText s
  | .array [] => ['[', ']']
  | .array (item :: rest) =>
    '[' :: (layout.gap (level + 1) ++ (chars layout (level + 1) item ++
      itemChars layout level rest))
  | .object [] => ['\x7b', '\x7d']
  | .object ((name, value) :: rest) =>
    '\x7b' :: (layout.gap (level + 1) ++ (stringText name ++ ':' :: (layout.space ++
      (chars layout (level + 1) value ++ memberChars layout level rest))))

/-- The further items of an array and its closing bracket. -/
def itemChars (layout : Layout) (level : Nat) : List Value → List Char
  | [] => layout.gap level ++ [']']
  | item :: rest =>
    ',' :: (layout.gap (level + 1) ++ (chars layout (level + 1) item ++
      itemChars layout level rest))

/-- The further members of an object and its closing brace. -/
def memberChars (layout : Layout) (level : Nat) : List (String × Value) → List Char
  | [] => layout.gap level ++ ['\x7d']
  | (name, value) :: rest =>
    ',' :: (layout.gap (level + 1) ++ (stringText name ++ ':' :: (layout.space ++
      (chars layout (level + 1) value ++ memberChars layout level rest))))

end

end Layout

theorem skipBlanks_cons {c : Char} (solid : isGap c = false) (rest : List Char) :
    skipBlanks (c :: rest) = c :: rest :=
  List.dropWhile_cons_of_neg (by simp [solid])

private theorem skipBlanks_append {gap : List Char} (blank : ∀ c ∈ gap, isGap c = true)
    (rest : List Char) : skipBlanks (gap ++ rest) = skipBlanks rest :=
  List.dropWhile_append_of_pos blank

private theorem document?_append {gap : List Char} (blank : ∀ c ∈ gap, isGap c = true)
    (fuel depth : Nat) (rest : List Char) :
    document? fuel depth (gap ++ rest) = document? fuel depth rest := by
  cases fuel with
  | zero => rfl
  | succ fuel => rw [document?, document?, skipBlanks_append blank]

private theorem members?_append {gap : List Char} (blank : ∀ c ∈ gap, isGap c = true)
    (fuel depth : Nat) (rest : List Char) :
    members? fuel depth (gap ++ rest) = members? fuel depth rest := by
  cases fuel with
  | zero => rfl
  | succ fuel => rw [members?, members?, skipBlanks_append blank]

private theorem items?_append {gap : List Char} (blank : ∀ c ∈ gap, isGap c = true)
    (fuel depth : Nat) (rest : List Char) :
    items? fuel depth (gap ++ rest) = items? fuel depth rest := by
  cases fuel with
  | zero => rfl
  | succ fuel => rw [items?, items?, document?_append blank]

private theorem document?_number {fuel depth : Nat} {cs : List Char} {taken : Literal × List Char}
    (read : literal? cs = some taken) :
    document? (fuel + 1) depth cs = some (.number taken.1.value?, taken.2) := by
  obtain ⟨c, rest, rfl, plain⟩ := literal?_head read
  simp only [List.mem_cons, List.not_mem_nil, not_or, or_false] at plain
  rw [document?, skipBlanks_cons (by simp [isGap, plain])]
  simp [plain, read]

theorem comma : isGap ',' = false := by decide

private theorem bracket : isGap ']' = false := by decide

theorem brace : isGap '\x7d' = false := by decide

theorem quote : isGap '"' = false := by decide

theorem colon : isGap ':' = false := by decide

namespace Layout

variable (layout : Layout)

private theorem chars_head (level : Nat) (value : Value) :
    ∃ c cs, layout.chars level value = c :: cs ∧ isGap c = false ∧ c ≠ ']' := by
  rcases value with _ | b | n | s | (_ | ⟨item, items⟩) | (_ | ⟨⟨name, member⟩, members⟩)
  · exact ⟨_, _, rfl, by decide, by decide⟩
  · cases b <;> exact ⟨_, _, rfl, by decide, by decide⟩
  · obtain ⟨literal, read⟩ := n.exists_literal
    obtain ⟨c, cs, shape, plain⟩ := literal?_head read
    simp only [List.mem_cons, List.not_mem_nil, not_or, or_false] at plain
    exact ⟨c, cs, shape, by simp [isGap, plain], plain.2.2.2.2.2.2.2.2.2.1⟩
  all_goals exact ⟨_, _, rfl, by decide, by decide⟩

private theorem itemChars_pos (level : Nat) (items : List Value) :
    0 < (layout.itemChars level items).length := by
  cases items <;> simp [itemChars]

private theorem memberChars_pos (level : Nat) (members : List (String × Value)) :
    0 < (layout.memberChars level members).length := by
  cases members <;> simp [memberChars]

private theorem delimited_gap (level : Nat) {c : Char} (closes : c = ']' ∨ c = '\x7d')
    (rest : List Char) : Delimited (layout.gap level ++ c :: rest) := by
  cases gap : layout.gap level with
  | nil => exact delimited_cons (.inr (.inr closes)) rest
  | cons d ds =>
    exact delimited_cons (.inl (layout.blank_gap level d (gap ▸ List.mem_cons_self))) _

private theorem delimited_itemChars (level : Nat) (items : List Value) (rest : List Char) :
    Delimited (layout.itemChars level items ++ rest) := by
  cases items with
  | nil =>
    rw [itemChars, List.append_assoc]
    exact layout.delimited_gap level (.inl rfl) rest
  | cons item items => exact delimited_cons (by decide) _

private theorem delimited_memberChars (level : Nat) (members : List (String × Value))
    (rest : List Char) :
    Delimited (layout.memberChars level members ++ rest) := by
  cases members with
  | nil =>
    rw [memberChars, List.append_assoc]
    exact layout.delimited_gap level (.inr rfl) rest
  | cons member members => exact delimited_cons (by decide) _

mutual

/-- The text of a value is read up to what follows it; the text of a number is only read so far when
something follows that ends a value. -/
theorem document?_chars : ∀ (value : Value) (level fuel depth : Nat) (rest : List Char),
    (∀ n, value = .number n → Delimited rest) → (layout.chars level value).length ≤ fuel →
    document? (fuel + 1) depth (layout.chars level value ++ rest) =
      some (value.rereadAt depth, rest)
  | .null, _, _, _, _, _, _ => rfl
  | .bool true, _, _, _, _, _, _ => rfl
  | .bool false, _, _, _, _, _, _ => rfl
  | .number n, _, _, _, _, ends, _ => by
    obtain ⟨literal, read, stands⟩ := n.literal?_reread
    rw [chars, document?_number (literal?_append read (ends n rfl)), stands]
    rfl
  | .string s, _, fuel, depth, rest, _, _ => by
    obtain ⟨literal, written, read⟩ := text?_stringText s rest
    rw [chars, written, document?, skipBlanks_cons (by decide)]
    simp only [read]
    rfl
  | .array [], _, _, _, _, _, _ => rfl
  | .array (item :: items), _, 0, _, _, _, long => nomatch long
  | .array (item :: items), level, fuel + 1, depth, rest, _, long => by
    have shorter : (layout.chars (level + 1) item).length +
        (layout.itemChars level items).length ≤ fuel := by
      simp only [chars, List.length_cons, List.length_append] at long
      omega
    have inner := items?_chars item items level fuel (depth + 1) rest shorter
    obtain ⟨c, cs, begins, solid, opens⟩ := layout.chars_head (level + 1) item
    rw [chars, List.cons_append, document?, skipBlanks_cons (by decide)]
    simp only [begins, List.append_assoc, List.cons_append] at inner ⊢
    rw [skipBlanks_append (layout.blank_gap _), skipBlanks_cons solid]
    split
    · next closes => exact absurd (List.cons.inj closes).1 opens
    · rw [inner]
      rfl
  | .object [], _, _, _, _, _, _ => rfl
  | .object ((name, value) :: members), _, 0, _, _, _, long => nomatch long
  | .object ((name, value) :: members), level, fuel + 1, depth, rest, _, long => by
    have shorter : (layout.chars (level + 1) value).length +
        (layout.memberChars level members).length ≤ fuel := by
      simp only [chars, List.length_cons, List.length_append] at long
      omega
    have inner := members?_chars name value members level fuel (depth + 1) rest shorter
    rw [chars, List.cons_append, document?, skipBlanks_cons (by decide)]
    simp only [stringText, List.append_assoc, List.cons_append] at inner ⊢
    rw [skipBlanks_append (layout.blank_gap _), skipBlanks_cons quote]
    split
    · next closes => exact absurd (List.cons.inj closes).1 (by decide)
    · rw [inner]
      rfl
  termination_by structural _ _ fuel => fuel

private theorem items?_chars : ∀ (item : Value) (items : List Value) (level fuel depth : Nat)
    (rest : List Char),
    (layout.chars (level + 1) item).length + (layout.itemChars level items).length ≤ fuel →
    items? (fuel + 1) depth
        (layout.chars (level + 1) item ++ (layout.itemChars level items ++ rest)) =
      some (itemsRereadAt depth (item :: items), rest)
  | item, items, level, 0, depth, rest, long => by
    have := layout.itemChars_pos level items
    omega
  | item, [], level, fuel + 1, depth, rest, long => by
    have first := document?_chars item (level + 1) fuel depth (layout.itemChars level [] ++ rest)
      (fun _ _ => layout.delimited_itemChars level [] rest) (by
      have := layout.itemChars_pos level []
      omega)
    rw [items?, first]
    simp only [Option.bind_eq_bind, Option.bind_some, itemChars, List.append_assoc,
      List.singleton_append, skipBlanks_append (layout.blank_gap _), skipBlanks_cons bracket,
      itemsRereadAt]
    rfl
  | item, next :: more, level, fuel + 1, depth, rest, long => by
    have first := document?_chars item (level + 1) fuel depth
      (layout.itemChars level (next :: more) ++ rest)
      (fun _ _ => layout.delimited_itemChars level (next :: more) rest) (by
      have := layout.itemChars_pos level (next :: more)
      omega)
    simp only [itemChars, List.length_cons, List.length_append] at long
    have later := items?_chars next more level fuel depth rest (by omega)
    rw [items?, first]
    simp only [Option.bind_eq_bind, Option.bind_some, itemChars, List.cons_append,
      List.append_assoc, skipBlanks_cons comma, items?_append (layout.blank_gap _), later,
      itemsRereadAt]
    rfl
  termination_by structural _ _ _ fuel => fuel

private theorem members?_chars : ∀ (name : String) (value : Value) (members : List (String × Value))
    (level fuel depth : Nat) (rest : List Char),
    (layout.chars (level + 1) value).length + (layout.memberChars level members).length ≤ fuel →
    members? (fuel + 1) depth (stringText name ++ ':' :: (layout.space ++
        (layout.chars (level + 1) value ++ (layout.memberChars level members ++ rest)))) =
      some (membersRereadAt depth ((name, value) :: members), rest)
  | name, value, members, level, 0, depth, rest, long => by
    have := layout.memberChars_pos level members
    omega
  | name, value, [], level, fuel + 1, depth, rest, long => by
    have first := document?_chars value (level + 1) fuel depth
      (layout.memberChars level [] ++ rest)
      (fun _ _ => layout.delimited_memberChars level [] rest) (by
      have := layout.memberChars_pos level []
      omega)
    obtain ⟨literal, written, read⟩ := text?_stringText name (':' :: (layout.space ++
      (layout.chars (level + 1) value ++ (layout.memberChars level [] ++ rest))))
    rw [written, members?, skipBlanks_cons quote]
    simp only [read, Option.bind_eq_bind, Option.bind_some, skipBlanks_cons colon, Text.expect?,
      if_true, document?_append layout.blank_space, first]
    simp only [memberChars, List.append_assoc, List.singleton_append,
      skipBlanks_append (layout.blank_gap _), skipBlanks_cons brace, membersRereadAt]
    rfl
  | name, value, (name', next) :: more, level, fuel + 1, depth, rest, long => by
    have first := document?_chars value (level + 1) fuel depth
      (layout.memberChars level ((name', next) :: more) ++ rest)
      (fun _ _ => layout.delimited_memberChars level ((name', next) :: more) rest) (by
      have := layout.memberChars_pos level ((name', next) :: more)
      omega)
    obtain ⟨literal, written, read⟩ := text?_stringText name (':' :: (layout.space ++
      (layout.chars (level + 1) value ++ (layout.memberChars level ((name', next) :: more) ++
        rest))))
    simp only [memberChars, List.length_cons, List.length_append] at long
    have later := members?_chars name' next more level fuel depth rest (by omega)
    rw [written, members?, skipBlanks_cons quote]
    simp only [read, Option.bind_eq_bind, Option.bind_some, skipBlanks_cons colon, Text.expect?,
      if_true, document?_append layout.blank_space, first]
    simp only [memberChars, List.cons_append, List.append_assoc, skipBlanks_cons comma,
      members?_append (layout.blank_gap _), later, membersRereadAt]
    rfl
  termination_by structural _ _ _ _ fuel => fuel

end

private theorem ofText?_chars (value : Value) :
    Document.ofText? (String.ofList (layout.chars 0 value)) = some (value.rereadAt 0) := by
  have read := layout.document?_chars value 0 (layout.chars 0 value).length 0 []
    (fun _ _ => delimited_nil) le_rfl
  rw [List.append_nil] at read
  unfold Document.ofText?
  rw [String.toList_ofList]
  simp [read, skipBlanks]

/-- The layout without blanks. -/
def compact : Layout where
  gap _ := []
  space := []
  blank_gap _ := List.forall_mem_nil _
  blank_space := List.forall_mem_nil _

/-- The layout with every item and member on a line of its own. -/
def indented : Layout where
  gap := Writer.newline
  space := [' ']
  blank_gap level := by
    refine List.forall_mem_cons.mpr ⟨by decide, fun c member => ?_⟩
    rw [List.eq_of_mem_replicate member]
    decide
  blank_space := by decide

mutual

theorem chars_compact : ∀ (value : Value) (level : Nat),
    compact.chars level value = Writer.compact value
  | .null, _ | .bool _, _ | .number _, _ | .string _, _ | .array [], _ | .object [], _ => rfl
  | .array (item :: items), level => by
    rw [chars, Writer.compact, chars_compact item, itemChars_compact items]
    rfl
  | .object ((name, value) :: members), level => by
    rw [chars, Writer.compact, chars_compact value, memberChars_compact members]
    simp [compact]

private theorem itemChars_compact : ∀ (items : List Value) (level : Nat),
    compact.itemChars level items = Writer.compactItems items
  | [], _ => rfl
  | item :: items, level => by
    rw [itemChars, Writer.compactItems, chars_compact item, itemChars_compact items]
    rfl

private theorem memberChars_compact : ∀ (members : List (String × Value)) (level : Nat),
    compact.memberChars level members = Writer.compactMembers members
  | [], _ => rfl
  | (name, value) :: members, level => by
    rw [memberChars, Writer.compactMembers, chars_compact value, memberChars_compact members]
    simp [compact]

end

mutual

private theorem chars_indented : ∀ (value : Value) (level : Nat),
    indented.chars level value = Writer.indented level value
  | .null, _ | .bool _, _ | .number _, _ | .string _, _ | .array [], _ | .object [], _ => rfl
  | .array (item :: items), level => by
    rw [chars, Writer.indented, chars_indented item, itemChars_indented items]
    simp [indented]
  | .object ((name, value) :: members), level => by
    rw [chars, Writer.indented, chars_indented value, memberChars_indented members]
    simp [indented]

private theorem itemChars_indented : ∀ (items : List Value) (level : Nat),
    indented.itemChars level items = Writer.indentedItems level items
  | [], _ => rfl
  | item :: items, level => by
    rw [itemChars, Writer.indentedItems, chars_indented item, itemChars_indented items]
    simp [indented]

private theorem memberChars_indented : ∀ (members : List (String × Value)) (level : Nat),
    indented.memberChars level members = Writer.indentedMembers level members
  | [], _ => rfl
  | (name, value) :: members, level => by
    rw [memberChars, Writer.indentedMembers, chars_indented value, memberChars_indented members]
    simp [indented]

end

end Layout

theorem ofText?_compactText (value : Value) :
    Document.ofText? value.compact = some (value.rereadAt 0) := by
  rw [Value.compact, ← Layout.chars_compact value 0, Layout.ofText?_chars]

private theorem ofText?_indentedText (value : Value) :
    Document.ofText? value.indented = some (value.rereadAt 0) := by
  rw [Value.indented, ← Layout.chars_indented value 0, Layout.ofText?_chars]

/-- The texts a value is written as. -/
def Value.texts (value : Value) : List String := [value.compact, value.indented]

theorem ofText?_texts {value : Value} {text : String} (written : text ∈ value.texts) :
    Document.ofText? text = some (value.rereadAt 0) := by
  rcases List.mem_pair.mp written with rfl | rfl
  · exact ofText?_compactText value
  · exact ofText?_indentedText value

end EdgePolicy.Json
