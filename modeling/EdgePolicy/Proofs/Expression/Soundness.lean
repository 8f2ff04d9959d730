import Mathlib.Data.List.TakeWhile
import EdgePolicy.Proofs.Expression.Selection

/-
What a recognised clause says.

A shape that reads a clause gives one of few kinds of conditions (`Recognised`), each of them in
canonical form (`Recognised.readBack`).  The readers that shapes are made of are taken apart first.
-/

set_option autoImplicit false
set_option relaxedAutoImplicit false

namespace EdgePolicy.Expression

open Text (expect? expect?_eq_some isAsciiBlank isBlank_of_isAsciiBlank isBlank_of_isGap
  isGap trimChars)

section Readers

variable {cs rest : List Char}

theorem gaps?_eq_some (read : gaps? cs = some rest) :
    ∃ gap, gap ≠ [] ∧ (∀ c ∈ gap, isGap c = true) ∧ cs = gap ++ rest := by
  cases cs with
  | nil => cases read
  | cons c cs =>
    simp only [gaps?] at read
    split at read
    · next blank =>
      obtain rfl := Option.some.inj read
      refine ⟨c :: cs.takeWhile isGap, List.cons_ne_nil _ _, ?_, ?_⟩
      · exact List.forall_mem_cons.mpr ⟨blank, fun d member => List.mem_takeWhile_imp member⟩
      · rw [List.cons_append, List.takeWhile_append_dropWhile]
    · cases read

private theorem skipGaps_eq (cs : List Char) :
    ∃ gap, (∀ c ∈ gap, isGap c = true) ∧ cs = gap ++ skipGaps cs :=
  ⟨cs.takeWhile isGap, fun _ member => List.mem_takeWhile_imp member,
    (List.takeWhile_append_dropWhile).symm⟩

private theorem keyword?_eq_some {word : String} (read : keyword? word cs = some rest) :
    ∃ gap gap', (∀ c ∈ gap, isGap c = true) ∧ (∀ c ∈ gap', isGap c = true) ∧
      cs = gap ++ (word.toList ++ (gap' ++ rest)) := by
  simp only [keyword?, Option.bind_eq_bind, Option.bind_eq_some_iff] at read
  obtain ⟨behind, start, behind', found, stop⟩ := read
  obtain ⟨gap, -, gaps, rfl⟩ := gaps?_eq_some start
  obtain ⟨gap', -, gaps', rfl⟩ := gaps?_eq_some stop
  exact ⟨gap, gap', gaps, gaps', congrArg (gap ++ ·) (expect?_eq_some found)⟩

theorem many?_eq_some {p : Char → Bool} {item : List Char}
    (read : many? p cs = some (item, rest)) :
    item ≠ [] ∧ (∀ c ∈ item, p c = true) ∧ cs = item ++ rest := by
  unfold many? at read
  split at read
  · exact nomatch read
  · next nonempty =>
    obtain ⟨rfl, rfl⟩ := Prod.mk.inj (Option.some.inj read)
    exact ⟨by simpa using nonempty, fun _ member => List.mem_takeWhile_imp member,
      (List.takeWhile_append_dropWhile).symm⟩

@[simp]
theorem ending?_eq_some {α : Type} {value other : α} :
    ending? value rest = some other ↔ rest = [] ∧ value = other := by
  simp [ending?]

private theorem operator?_mem {operators : List Operator} {operator : Operator}
    (read : operator? operators cs = some (operator, rest)) : operator ∈ operators := by
  induction operators with
  | nil => exact nomatch read
  | cons first others ih =>
    unfold operator? at read
    split at read
    · obtain ⟨rfl, -⟩ := Prod.mk.inj (Option.some.inj read)
      exact List.mem_cons_self
    · exact List.mem_cons_of_mem first (ih read)

private theorem items?_ne_nil {α : Type} {item? : List Char → Option (α × List Char)} {fuel : Nat}
    {items : List α} (read : items? item? fuel cs = some (items, rest)) : items ≠ [] := by
  cases fuel with
  | zero => exact nomatch read
  | succ fuel =>
    simp only [items?, Option.bind_eq_bind, Option.bind_eq_some_iff] at read
    obtain ⟨⟨item, behind⟩, -, read⟩ := read
    split at read
    all_goals
      obtain ⟨rfl, -⟩ := Prod.mk.inj (Option.some.inj read)
      exact List.cons_ne_nil _ _

private theorem set?_ne_nil {item? : List Char → Option (List Char × List Char)}
    {items : List String} (read : set? item? cs = some (items, rest)) : items ≠ [] := by
  simp only [set?, Option.bind_eq_bind, Option.bind_eq_some_iff] at read
  obtain ⟨_, -, ⟨found, behind⟩, spelled, _, -, read⟩ := read
  obtain ⟨rfl, -⟩ := Prod.mk.inj (Option.some.inj read)
  simpa using items?_ne_nil spelled

private theorem httpField?_eq_some {field : Field} (read : httpField? cs = some (field, rest)) :
    ∃ path, field = fieldOfPath path := by
  simp only [httpField?, Option.bind_eq_bind, Option.bind_eq_some_iff] at read
  obtain ⟨_, -, ⟨path, behind⟩, -, read⟩ := read
  obtain ⟨rfl, -⟩ := Prod.mk.inj (Option.some.inj read)
  exact ⟨_, rfl⟩

private theorem readRaw?_noQuote {value : List Char} (read : readRaw? cs = some (value, rest)) :
    '"' ∉ value := by
  unfold readRaw? at read
  split at read
  · split at read
    · obtain ⟨rfl, -⟩ := Prod.mk.inj (Option.some.inj read)
      intro member
      simpa using List.mem_takeWhile_imp member
    · exact nomatch read
  · exact nomatch read

/-- An item of a set without quotes. -/
structure IsBare (item : List Char) : Prop where
  nonempty : item ≠ []
  chars : ∀ c ∈ item, isBareChar c = true

theorem IsBare.solid {item : List Char} (bare : IsBare item) {c : Char} (member : c ∈ item) :
    c ≠ '"' ∧ isAsciiBlank c = false := by
  have kept := bare.chars c member
  simp only [isBareChar, Bool.not_eq_true', Bool.or_eq_false_iff, beq_eq_false_iff_ne] at kept
  refine ⟨kept.2, ?_⟩
  rw [← Bool.not_eq_true]
  intro blank
  simp [isBlank_of_isAsciiBlank blank] at kept

/-- Items with gaps between them. -/
inductive Spaced : List (List Char) → List Char → Prop
  | last {item : List Char} (bare : IsBare item) : Spaced [item] item
  | cons {item gap text : List Char} {items : List (List Char)} (bare : IsBare item)
      (nonempty : gap ≠ []) (gaps : ∀ c ∈ gap, isGap c = true) (tail : Spaced items text) :
      Spaced (item :: items) (item ++ (gap ++ text))

theorem Spaced.bare {items : List (List Char)} {text : List Char} (spaced : Spaced items text) :
    ∀ item ∈ items, IsBare item := by
  induction spaced with
  | last bare => exact List.forall_mem_singleton.mpr bare
  | cons bare _ _ _ ih => exact List.forall_mem_cons.mpr ⟨bare, ih⟩

private theorem items?_spaced {fuel : Nat} {items : List (List Char)}
    (read : items? (many? isBareChar) fuel cs = some (items, rest)) :
    ∃ text, Spaced items text ∧ cs = text ++ rest := by
  induction fuel generalizing cs items with
  | zero => exact nomatch read
  | succ fuel ih =>
    simp only [items?, Option.bind_eq_bind, Option.bind_eq_some_iff] at read
    obtain ⟨⟨item, behind⟩, first, read⟩ := read
    obtain ⟨nonempty, chars, rfl⟩ := many?_eq_some first
    split at read
    · next others stop more =>
      obtain ⟨rfl, rfl⟩ := Prod.mk.inj (Option.some.inj read)
      obtain ⟨behind', skipped, later⟩ := Option.bind_eq_some_iff.mp more
      obtain ⟨gap, filled, gaps, rfl⟩ := gaps?_eq_some skipped
      obtain ⟨text, spaced, rfl⟩ := ih later
      exact ⟨_, .cons ⟨nonempty, chars⟩ filled gaps spaced, by simp⟩
    · obtain ⟨rfl, rfl⟩ := Prod.mk.inj (Option.some.inj read)
      exact ⟨item, .last ⟨nonempty, chars⟩, rfl⟩

private theorem bareSet?_eq_some {items : List String} (read : bareSet? cs = some (items, rest)) :
    ∃ texts text gap gap', items = texts.map String.ofList ∧ Spaced texts text ∧
      (∀ c ∈ gap, isGap c = true) ∧ (∀ c ∈ gap', isGap c = true) ∧
      cs = '\x7b' :: (gap ++ (text ++ (gap' ++ '\x7d' :: rest))) := by
  simp only [bareSet?, set?, Option.bind_eq_bind, Option.bind_eq_some_iff] at read
  obtain ⟨inner, opened, ⟨texts, behind⟩, spelled, closing, closed, read⟩ := read
  obtain ⟨rfl, rfl⟩ := Prod.mk.inj (Option.some.inj read)
  obtain ⟨text, spaced, stands⟩ := items?_spaced spelled
  obtain ⟨gap, gaps, inner_eq⟩ := skipGaps_eq inner
  obtain ⟨gap', gaps', behind_eq⟩ := skipGaps_eq behind
  refine ⟨texts, text, gap, gap', rfl, spaced, gaps, gaps', ?_⟩
  rw [expect?_eq_some opened, inner_eq, stands, behind_eq, expect?_eq_some closed]
  simp

end Readers

/-- The conditions that clauses are recognised as. -/
inductive Recognised : Condition → Prop
  | header (name value : String) {operator : Operator}
      (form : operator ∈ [.eq, .ne, .contains, .notContains]) :
      Recognised (.onHeader name operator value)
  | text (path value : String) {operator : Operator}
      (form : operator ∈ [.eq, .ne, .contains, .notContains, .wildcard, .startsWith, .endsWith])
      (noQuote : operator = .wildcard → '"' ∉ value.toList) :
      Recognised (.of (fieldOfPath path) operator (.one value))
  | equality (value : String) {field : Field} {operator : Operator}
      (single : field ∈ [.fileExtension, .verifiedBotCategory]) (form : operator ∈ [.eq, .ne]) :
      Recognised (.of field operator (.one value))
  | membership {field : Field} {operator : Operator} {items : List String}
      (quoted : field ∈ [.fileExtension, .sourceCountry, .verifiedBotCategory])
      (form : operator ∈ [.within, .notWithin]) (nonempty : items ≠ []) :
      Recognised (.of field operator (.many items))
  | addresses {items : List String} (nonempty : items ≠ [])
      (bare : ∀ item ∈ items, isBareToken item = true) :
      Recognised (.of .sourceAddress .within (.many items))
  | knownBot (value : Bool) : Recognised (.of .knownBot .eq (.flag value))

section Shapes

variable {cs rest : List Char} {c : Condition}

/-- A shape reads conditions of the kinds that are recognised, and none on the source address. -/
def Reads (shape : Shape) : Prop :=
  ∀ cs c, shape cs = some c → Recognised c ∧ c.field ≠ .sourceAddress

private theorem fieldOfPath_ne_sourceAddress (path : String) :
    fieldOfPath path ≠ .sourceAddress := by
  unfold fieldOfPath
  split
  · exact nofun
  · split <;> exact nofun

private theorem reads_quotedMembership {field : Field} {path : List Char}
    (quoted : field ∈ [Field.fileExtension, .sourceCountry, .verifiedBotCategory]) :
    Reads (quotedMembership? field path) := by
  intro cs c read
  simp only [quotedMembership?, Option.bind_eq_bind, Option.bind_eq_some_iff] at read
  obtain ⟨_, -, _, -, ⟨items, stop⟩, set, ended⟩ := read
  obtain ⟨-, rfl⟩ := ending?_eq_some.mp ended
  have other : field ≠ .sourceAddress := by
    rintro rfl
    exact absurd quoted (by decide)
  refine ⟨.membership quoted ?_ (set?_ne_nil set), other⟩
  split <;> simp

theorem Reads.under {shape : Shape} (reads : Reads shape) (operator : Operator) :
    Reads fun cs => (shape cs).bind (Expression.under operator) := by
  intro cs c read
  obtain ⟨condition, found, kept⟩ := Option.bind_eq_some_iff.mp read
  unfold Expression.under at kept
  split at kept
  · obtain rfl := Option.some.inj kept
    exact reads cs condition found
  · exact nomatch kept

private theorem reads_quotedEquality {field : Field} {path : List Char}
    (single : field ∈ [Field.fileExtension, .verifiedBotCategory]) :
    Reads (quotedEquality? field path) := by
  intro cs c read
  simp only [quotedEquality?, Option.bind_eq_bind, Option.bind_eq_some_iff] at read
  obtain ⟨_, -, ⟨operator, _⟩, form, ⟨value, _⟩, -, ended⟩ := read
  obtain ⟨-, rfl⟩ := ending?_eq_some.mp ended
  have other : field ≠ .sourceAddress := by
    rintro rfl
    exact absurd single (by decide)
  exact ⟨.equality value single (operator?_mem form), other⟩

private theorem reads_headerNotContains : Reads headerNotContains? := by
  intro cs c read
  simp only [headerNotContains?, Option.bind_eq_bind, Option.bind_eq_some_iff] at read
  obtain ⟨_, -, _, -, _, -, ⟨name, _⟩, -, _, -, ⟨value, _⟩, -, _, -, ended⟩ := read
  obtain ⟨-, rfl⟩ := ending?_eq_some.mp ended
  exact ⟨.header name value (by simp), by rintro ⟨⟩⟩

private theorem reads_headerAny : Reads headerAny? := by
  intro cs c read
  simp only [headerAny?, Option.bind_eq_bind, Option.bind_eq_some_iff] at read
  obtain ⟨_, -, ⟨name, _⟩, -, ⟨operator, _⟩, form, ⟨value, _⟩, -, _, -, ended⟩ := read
  obtain ⟨-, rfl⟩ := ending?_eq_some.mp ended
  have known : operator ∈ [Operator.eq, .contains] := operator?_mem form
  simp only [List.mem_cons, List.not_mem_nil, or_false] at known
  refine ⟨.header name value ?_, by rintro ⟨⟩⟩
  rcases known with rfl | rfl <;> simp

private theorem reads_headerAllNe : Reads headerAllNe? := by
  intro cs c read
  simp only [headerAllNe?, Option.bind_eq_bind, Option.bind_eq_some_iff] at read
  obtain ⟨_, -, ⟨name, _⟩, -, _, -, ⟨value, _⟩, -, _, -, ended⟩ := read
  obtain ⟨-, rfl⟩ := ending?_eq_some.mp ended
  exact ⟨.header name value (by simp), by rintro ⟨⟩⟩

private theorem reads_notContains : Reads notContains? := by
  intro cs c read
  simp only [notContains?, Option.bind_eq_bind, Option.bind_eq_some_iff] at read
  obtain ⟨_, -, _, -, ⟨field, _⟩, path, _, -, ⟨value, _⟩, -, ended⟩ := read
  obtain ⟨-, rfl⟩ := ending?_eq_some.mp ended
  obtain ⟨name, rfl⟩ := httpField?_eq_some path
  exact ⟨.text name value (by simp) (by rintro ⟨⟩), fieldOfPath_ne_sourceAddress name⟩

private theorem reads_wildcard : Reads wildcard? := by
  intro cs c read
  simp only [wildcard?, Option.bind_eq_bind, Option.bind_eq_some_iff] at read
  obtain ⟨⟨field, _⟩, path, _, -, ⟨value, _⟩, raw, ended⟩ := read
  obtain ⟨-, rfl⟩ := ending?_eq_some.mp ended
  obtain ⟨name, rfl⟩ := httpField?_eq_some path
  have noQuote : '"' ∉ (String.ofList value).toList := by
    rw [String.toList_ofList]
    exact readRaw?_noQuote raw
  exact ⟨.text name _ (by simp) fun _ => noQuote, fieldOfPath_ne_sourceAddress name⟩

private theorem reads_compare : Reads compare? := by
  intro cs c read
  simp only [compare?, Option.bind_eq_bind, Option.bind_eq_some_iff] at read
  obtain ⟨⟨field, _⟩, path, ⟨operator, _⟩, form, ⟨value, _⟩, -, ended⟩ := read
  obtain ⟨-, rfl⟩ := ending?_eq_some.mp ended
  obtain ⟨name, rfl⟩ := httpField?_eq_some path
  have known : operator ∈ [Operator.eq, .ne, .contains] := operator?_mem form
  simp only [List.mem_cons, List.not_mem_nil, or_false] at known
  refine ⟨.text name value ?_ ?_, fieldOfPath_ne_sourceAddress name⟩
  · rcases known with rfl | rfl | rfl <;> simp
  · rcases known with rfl | rfl | rfl <;> rintro ⟨⟩

private theorem reads_function {operator : Operator}
    (form : operator = .startsWith ∨ operator = .endsWith) : Reads (function? operator) := by
  intro cs c read
  simp only [function?, Option.bind_eq_bind, Option.bind_eq_some_iff] at read
  obtain ⟨_, -, _, -, ⟨field, _⟩, path, _, -, ⟨value, _⟩, -, _, -, ended⟩ := read
  obtain ⟨-, rfl⟩ := ending?_eq_some.mp ended
  obtain ⟨name, rfl⟩ := httpField?_eq_some path
  refine ⟨.text name value ?_ ?_, fieldOfPath_ne_sourceAddress name⟩
  · rcases form with rfl | rfl <;> simp
  · rcases form with rfl | rfl <;> exact nofun

private theorem reads_knownBot : Reads knownBot? := by
  intro cs c read
  simp only [knownBot?, Option.bind_eq_bind, Option.bind_eq_some_iff] at read
  obtain ⟨_, -, ended⟩ := read
  obtain ⟨-, rfl⟩ := ending?_eq_some.mp ended
  exact ⟨.knownBot _, by rintro ⟨⟩⟩

/-- What the shape for addresses reads: items with gaps between them, and in front of them nothing
that the scanner takes notice of. -/
theorem addressIn?_eq_some (read : addressIn? cs = some c) :
    ∃ texts text front gap, c = .of .sourceAddress .within (.many (texts.map String.ofList)) ∧
      Spaced texts text ∧ (∀ d ∈ front, isPlain d = true) ∧ (∀ d ∈ gap, isGap d = true) ∧
      cs = front ++ (text ++ (gap ++ ['\x7d'])) := by
  simp only [addressIn?, Option.bind_eq_bind, Option.bind_eq_some_iff] at read
  obtain ⟨behind, path, opening, word, ⟨items, stop⟩, set, ended⟩ := read
  obtain ⟨rfl, rfl⟩ := ending?_eq_some.mp ended
  obtain ⟨texts, text, gap, gap', rfl, spaced, gaps, gaps', rfl⟩ := bareSet?_eq_some set
  obtain ⟨gap₁, gap₂, gaps₁, gaps₂, rfl⟩ := keyword?_eq_some word
  refine ⟨texts, text, addressPath ++ (gap₁ ++ ("in".toList ++ (gap₂ ++ '\x7b' :: gap))), gap', rfl,
    spaced, ?_, gaps', ?_⟩
  · have solid : ∀ d ∈ addressPath, isPlain d = true := fun d member =>
      (Bool.and_eq_true_iff.mp (isPath_addressPath.solid d member)).1
    have word : ∀ d ∈ "in".toList, isPlain d = true := by
      rw [String.toList_ofList]
      decide
    have brace : isPlain '\x7b' = true := by decide
    intro d member
    simp only [List.mem_append, List.mem_cons] at member
    rcases member with inPath | inGap | inWord | inGap | rfl | inGap
    · exact solid d inPath
    · exact isPlain_of_isBlank (isBlank_of_isGap (gaps₁ d inGap))
    · exact word d inWord
    · exact isPlain_of_isBlank (isBlank_of_isGap (gaps₂ d inGap))
    · exact brace
    · exact isPlain_of_isBlank (isBlank_of_isGap (gaps d inGap))
  · rw [expect?_eq_some path]
    simp

private theorem reads_of_shape {shape : Shape} (listed : shape ∈ shapes) :
    Reads shape ∨ shape = addressIn? := by
  simp only [shapes, List.mem_cons, List.not_mem_nil, or_false] at listed
  rcases listed with rfl | rfl | rfl | rfl | rfl | rfl | rfl | rfl | rfl | rfl | rfl | rfl | rfl |
    rfl | rfl | rfl
  · exact .inl reads_headerNotContains
  · exact .inl reads_headerAny
  · exact .inl reads_headerAllNe
  · exact .inl ((reads_quotedMembership (by simp)).under .notWithin)
  · exact .inl ((reads_quotedMembership (by simp)).under .within)
  · exact .inl (reads_quotedEquality (by simp))
  · exact .inl reads_notContains
  · exact .inl reads_wildcard
  · exact .inl reads_compare
  · exact .inl (reads_function (.inl rfl))
  · exact .inl (reads_function (.inr rfl))
  · exact .inr rfl
  · exact .inl (reads_quotedMembership (by simp))
  · exact .inl reads_knownBot
  · exact .inl (reads_quotedMembership (by simp))
  · exact .inl (reads_quotedEquality (by simp))

theorem Spaced.ne_nil {items : List (List Char)} {text : List Char} (spaced : Spaced items text) :
    items ≠ [] := by
  cases spaced <;> exact List.cons_ne_nil _ _

theorem IsBare.isBareToken {item : List Char} (bare : IsBare item) :
    Expression.isBareToken (String.ofList item) = true := by
  have nonempty : (String.ofList item).isEmpty = false := by
    rw [← Bool.not_eq_true, String.isEmpty_iff, ← String.toList_eq_nil_iff, String.toList_ofList]
    exact bare.nonempty
  have chars : item.all isBareChar = true := List.all_eq_true.mpr bare.chars
  simp only [Expression.isBareToken, nonempty, String.toList_ofList]
  exact chars

theorem recognised_of_condition? (read : condition? cs = some c) :
    Recognised c ∧ (c.field = .sourceAddress → addressIn? (trimChars cs) = some c) := by
  obtain ⟨shape, listed, read⟩ := List.exists_of_findSome?_eq_some read
  rcases reads_of_shape listed with reads | rfl
  · obtain ⟨recognised, other⟩ := reads _ c read
    exact ⟨recognised, fun field => absurd field other⟩
  · refine ⟨?_, fun _ => read⟩
    obtain ⟨texts, text, front, gap, rfl, spaced, -⟩ := addressIn?_eq_some read
    refine .addresses (by simpa using spaced.ne_nil) ?_
    intro item member
    obtain ⟨chars, listed, rfl⟩ := List.mem_map.mp member
    exact (spaced.bare chars listed).isBareToken

end Shapes

end EdgePolicy.Expression
