import EdgePolicy.Expression.Shape
import EdgePolicy.Proofs.Expression.Written

/-
Readers of the pieces of a clause on what the writer makes of them.

Each reader has a lemma for the text it was made for, with anything behind it, and a lemma for the
texts it refuses.  A path is read only as itself: a reader of another path meets either a different
letter or a longer path where a gap should stand.
-/

set_option autoImplicit false
set_option relaxedAutoImplicit false

namespace EdgePolicy.Expression

open Text (expect? expect?_append expect?_eq_some isBlank isGap isAsciiBlank isAsciiBlank_of_isGap
  isBlank_of_isAsciiBlank)

def BeginsSolid (cs : List Char) : Prop := ∃ c rest, cs = c :: rest ∧ isGap c = false

theorem isGap_of_isSolid {c : Char} (solid : isSolid c = true) : isGap c = false := by
  rw [← Bool.not_eq_true]
  intro gap
  have blank := isAsciiBlank_of_isGap gap
  simp [isAsciiBlank_of_isSolid solid] at blank

theorem beginsSolid_append {cs : List Char} (solid : ∀ c ∈ cs, isSolid c = true)
    (nonempty : cs ≠ []) (rest : List Char) : BeginsSolid (cs ++ rest) := by
  obtain ⟨c, tail, rfl⟩ := List.exists_cons_of_ne_nil nonempty
  exact ⟨c, tail ++ rest, rfl, isGap_of_isSolid (solid c List.mem_cons_self)⟩

theorem beginsSolid_quoted (value rest : List Char) : BeginsSolid (quoted value ++ rest) :=
  ⟨'"', escape value ++ ['"'] ++ rest, rfl, by decide⟩

theorem skipGaps_of_solid {cs : List Char} (solid : BeginsSolid cs) : skipGaps cs = cs := by
  obtain ⟨c, rest, rfl, notGap⟩ := solid
  simp [skipGaps, notGap]

theorem skipGaps_blank {cs : List Char} (solid : BeginsSolid cs) : skipGaps (' ' :: cs) = cs := by
  obtain ⟨c, rest, rfl, notGap⟩ := solid
  simp [skipGaps, notGap, show isGap ' ' = true from by decide]

theorem gaps?_blank {cs : List Char} (solid : BeginsSolid cs) : gaps? (' ' :: cs) = some cs := by
  obtain ⟨c, rest, rfl, notGap⟩ := solid
  simp [gaps?, notGap, show isGap ' ' = true from by decide]

private theorem gaps?_of_solid {cs : List Char} (solid : BeginsSolid cs) : gaps? cs = none := by
  obtain ⟨c, rest, rfl, notGap⟩ := solid
  simp [gaps?, notGap]

theorem expect?_of_head {start cs : List Char} (nonempty : start ≠ [])
    (other : start.head? ≠ cs.head?) : expect? start cs = none := by
  obtain ⟨want, wants, rfl⟩ := List.exists_cons_of_ne_nil nonempty
  cases cs with
  | nil => rfl
  | cons c cs =>
    have differ : want ≠ c := by simpa using other
    simp [expect?, differ]

section Words

variable {word : String} {other rest : List Char}

theorem word?_append (word : String) (rest : List Char) :
    word? word (word.toList ++ rest) = some rest :=
  expect?_append word.toList rest

theorem keyword?_written (listed : word.toList ∈ clauseWords) (solid : BeginsSolid rest) :
    keyword? word (' ' :: (word.toList ++ ' ' :: rest)) = some rest := by
  obtain ⟨letters, nonempty, -⟩ := clauseWords_solid word.toList listed
  simp [keyword?, gaps?_blank (beginsSolid_append letters nonempty _), word?_append,
    gaps?_blank solid]

theorem keyword?_other (listed : word.toList ∈ clauseWords) (listed_other : other ∈ clauseWords)
    (different : word.toList ≠ other) :
    keyword? word (' ' :: (other ++ ' ' :: rest)) = none := by
  obtain ⟨letters, nonempty, -⟩ := clauseWords_solid other listed_other
  have refused : word? word (other ++ ' ' :: rest) = none := by
    apply expect?_of_head (clauseWords_solid word.toList listed).2.1
    have head := clauseWords_head word.toList listed other listed_other different
    obtain ⟨c, cs, rfl⟩ := List.exists_cons_of_ne_nil nonempty
    simpa using head
  simp [keyword?, gaps?_blank (beginsSolid_append letters nonempty _), refused]

theorem operator?_other {operators : List Operator}
    (listed : ∀ operator ∈ operators, operator.token.toList ∈ clauseWords)
    (listed_other : other ∈ clauseWords)
    (absent : ∀ operator ∈ operators, operator.token.toList ≠ other) :
    operator? operators (' ' :: (other ++ ' ' :: rest)) = none := by
  induction operators with
  | nil => rfl
  | cons operator operators ih =>
    simp only [List.forall_mem_cons] at listed absent
    simp only [operator?, keyword?_other listed.1 listed_other absent.1]
    exact ih listed.2 absent.2

theorem operator?_written {operators : List Operator} {operator : Operator}
    (listed : ∀ operator ∈ operators, operator.token.toList ∈ clauseWords)
    (member : operator ∈ operators) (solid : BeginsSolid rest) :
    operator? operators (' ' :: (operator.token.toList ++ ' ' :: rest)) =
      some (operator, rest) := by
  have listed_operator := listed operator member
  induction operators with
  | nil => simp at member
  | cons first operators ih =>
    simp only [List.forall_mem_cons] at listed
    by_cases same : first = operator
    · subst same
      simp only [operator?, keyword?_written listed.1 solid]
    · have differ : first.token.toList ≠ operator.token.toList :=
        fun tokens => same (token_injective tokens)
      simp only [operator?, keyword?_other listed.1 listed_operator differ]
      exact ih listed.2 (List.mem_of_ne_of_mem (Ne.symm same) member)

end Words

theorem text?_quoted (value : String) (rest : List Char) :
    text? (quoted value.toList ++ rest) = some (value, rest) := by
  simp [text?, readQuoted?_quoted]

theorem readRaw?_written {value : List Char} (noQuote : '"' ∉ value) (rest : List Char) :
    readRaw? ('r' :: '"' :: (value ++ '"' :: rest)) = some (value, rest) := by
  have kept : ∀ c ∈ value, (c != '"') = true := by
    intro c member
    simpa using fun same : c = '"' => noQuote (same ▸ member)
  have taken : (value ++ '"' :: rest).takeWhile (· != '"') = value := by
    simp [List.takeWhile_append_of_pos kept]
  have dropped : (value ++ '"' :: rest).dropWhile (· != '"') = '"' :: rest := by
    simp [List.dropWhile_append_of_pos kept]
  simp only [readRaw?, taken, dropped]

theorem header?_written (name : String) (rest : List Char) :
    header? (headerPath name ++ rest) = some (name, rest) := by
  unfold header? headerPath
  simp only [List.append_assoc, word?_append, text?_quoted, Option.bind_eq_bind, Option.bind_some,
    Option.pure_def]

private theorem many?_append {p : Char → Bool} {cs : List Char} {c : Char}
    (holds : ∀ d ∈ cs, p d = true) (nonempty : cs ≠ []) (fails : p c = false) (rest : List Char) :
    many? p (cs ++ c :: rest) = some (cs, c :: rest) := by
  have taken : (cs ++ c :: rest).takeWhile p = cs := by
    simp [List.takeWhile_append_of_pos holds, fails]
  have dropped : (cs ++ c :: rest).dropWhile p = c :: rest := by
    simp [List.dropWhile_append_of_pos holds, fails]
  simp [many?, taken, dropped, nonempty]

theorem httpField?_written {path : List Char} {c : Char}
    (chars : ∀ d ∈ path, isPathChar d = true) (nonempty : path ≠ []) (stops : isPathChar c = false)
    (rest : List Char) :
    httpField? (httpPath path ++ c :: rest) =
      some (fieldOfPath (String.ofList path), c :: rest) := by
  unfold httpField?
  rw [← httpPath_eq, List.append_assoc, word?_append]
  simp [many?_append chars nonempty stops]

theorem gaps?_of_expect?_other {path other rest after : List Char}
    (solid : ∀ c ∈ path, isSolid c = true) (solid_other : ∀ c ∈ other, isSolid c = true)
    (different : path ≠ other) (met : expect? other (path ++ ' ' :: rest) = some after) :
    gaps? after = none := by
  have same := expect?_eq_some met
  rw [List.append_eq_append_iff] at same
  rcases same with ⟨more, rfl, tail_eq⟩ | ⟨more, rfl, tail_eq⟩
  · cases more with
    | nil => simp at different
    | cons c cs =>
      obtain rfl : ' ' = c := (List.cons.inj tail_eq).1
      exact absurd (solid_other ' ' (by simp)) (by decide)
  · cases more with
    | nil => simp at different
    | cons c cs =>
      rw [tail_eq]
      exact gaps?_of_solid ⟨c, cs ++ ' ' :: rest, rfl, isGap_of_isSolid (solid c (by simp))⟩

theorem negation_not {cs : List Char} (solid : BeginsSolid cs) :
    negation ("not ".toList ++ cs) = (true, cs) := by
  have split : "not ".toList ++ cs = "not".toList ++ ' ' :: cs := by simp
  rw [split]
  unfold negation
  rw [word?_append]
  simp [gaps?_blank solid]

theorem negation_of_head {cs : List Char} (other : cs.head? ≠ some 'n') :
    negation cs = (false, cs) := by
  have refused : word? "not" cs = none :=
    expect?_of_head (by rw [not_letters]; decide)
      (fun same => other (same.symm.trans (by rw [not_letters]; rfl)))
  simp [negation, refused]

section Sets

variable {item? : List Char → Option (List Char × List Char)} {write : List Char → List Char}

/-- A reader of items knows the items of a list by what is written for them, up to a blank or the
closing brace. -/
structure ReadsItems (item? : List Char → Option (List Char × List Char))
    (write : List Char → List Char) (items : List (List Char)) : Prop where
  reads : ∀ item ∈ items, ∀ stop ∈ [' ', '\x7d'], ∀ rest,
    item? (write item ++ stop :: rest) = some (item, stop :: rest)
  solid : ∀ item ∈ items, ∀ rest, BeginsSolid (write item ++ rest)

theorem ReadsItems.tail {first : List Char} {others : List (List Char)}
    (known : ReadsItems item? write (first :: others)) : ReadsItems item? write others :=
  ⟨fun item member => known.reads item (List.mem_cons_of_mem first member),
    fun item member => known.solid item (List.mem_cons_of_mem first member)⟩

theorem intercalate_singleton (separator text : List Char) :
    separator.intercalate [text] = text := by
  simp [List.intercalate]

theorem intercalate_cons_cons (separator first second : List Char) (others : List (List Char)) :
    separator.intercalate (first :: second :: others) =
      first ++ (separator ++ separator.intercalate (second :: others)) := by
  simp [List.intercalate, List.intersperse]

private theorem beginsSolid_items {first : List Char} {others : List (List Char)}
    (known : ReadsItems item? write (first :: others)) (rest : List Char) :
    BeginsSolid ([' '].intercalate ((first :: others).map write) ++ rest) := by
  have solid := known.solid first List.mem_cons_self
  cases others with
  | nil => simpa [List.intercalate] using solid rest
  | cons second others =>
    simp only [List.map_cons, intercalate_cons_cons, List.append_assoc]
    exact solid _

private theorem items?_written {first : List Char} {others : List (List Char)}
    (known : ReadsItems item? write (first :: others)) {fuel : Nat} (enough : others.length < fuel)
    (rest : List Char) :
    items? item? fuel ([' '].intercalate ((first :: others).map write) ++ '\x7d' :: rest) =
      some (first :: others, '\x7d' :: rest) := by
  induction others generalizing first fuel with
  | nil =>
    obtain ⟨fuel, rfl⟩ := Nat.exists_eq_add_one_of_ne_zero (Nat.ne_of_gt enough)
    have read := known.reads first List.mem_cons_self '\x7d' (by simp) rest
    have stop : gaps? ('\x7d' :: rest) = none := gaps?_of_solid ⟨_, _, rfl, by decide⟩
    simp [List.intercalate, items?, read, stop]
  | cons second others ih =>
    obtain ⟨fuel, rfl⟩ := Nat.exists_eq_add_one_of_ne_zero (Nat.ne_of_gt (Nat.zero_lt_of_lt enough))
    let tail := [' '].intercalate ((second :: others).map write) ++ '\x7d' :: rest
    have read : item? (write first ++ ' ' :: tail) = some (first, ' ' :: tail) :=
      known.reads first List.mem_cons_self ' ' (by simp) tail
    have gap : gaps? (' ' :: tail) = some tail := gaps?_blank (beginsSolid_items known.tail _)
    have read_tail : items? item? fuel tail = some (second :: others, '\x7d' :: rest) :=
      ih known.tail (by simpa using enough)
    have shape : [' '].intercalate ((first :: second :: others).map write) ++ '\x7d' :: rest =
        write first ++ ' ' :: tail := by
      simp [tail]
    rw [shape]
    simp [items?, read, gap, read_tail]

private theorem length_le_intercalate (first : List Char) (others : List (List Char)) :
    others.length ≤ ([' '].intercalate (first :: others)).length := by
  induction others generalizing first with
  | nil => simp
  | cons second others ih =>
    have tail := ih second
    rw [intercalate_cons_cons]
    simp only [List.length_cons, List.length_append, List.length_nil]
    omega

private theorem set?_written {items : List (List Char)} (nonempty : items ≠ [])
    (known : ReadsItems item? write items) (rest : List Char) :
    set? item? (setOf (items.map write) ++ rest) = some (items.map String.ofList, rest) := by
  obtain ⟨first, others, rfl⟩ := List.exists_cons_of_ne_nil nonempty
  let inner := [' '].intercalate ((first :: others).map write) ++ '\x7d' :: rest
  have opened : expect? ['\x7b'] (setOf ((first :: others).map write) ++ rest) = some inner := by
    simp [setOf, expect?, inner]
  have begins : skipGaps inner = inner := skipGaps_of_solid (beginsSolid_items known _)
  have enough : others.length < inner.length + 1 := by
    have bound := length_le_intercalate (write first) (others.map write)
    simp only [inner, List.map_cons, List.length_append, List.length_cons,
      List.length_map] at bound ⊢
    omega
  have read : items? item? (inner.length + 1) inner = some (first :: others, '\x7d' :: rest) :=
    items?_written known enough rest
  have closed : skipGaps ('\x7d' :: rest) = '\x7d' :: rest :=
    skipGaps_of_solid ⟨_, _, rfl, by decide⟩
  have brace : expect? ['\x7d'] ('\x7d' :: rest) = some rest := by simp [expect?]
  simp only [set?, opened, begins, read, closed, brace, Option.bind_eq_bind, Option.bind_some]
  rfl

theorem quotedSet?_written {items : List String} (nonempty : items ≠ []) (rest : List Char) :
    quotedSet? (quotedSet items ++ rest) = some (items, rest) := by
  have known : ReadsItems readQuoted? quoted (items.map String.toList) :=
    ⟨fun item _ stop _ rest => readQuoted?_quoted item (stop :: rest),
      fun item _ rest => beginsSolid_quoted item rest⟩
  have read := set?_written (by simpa using nonempty) known rest
  simpa [quotedSet?, quotedSet, Function.comp_def] using read

theorem bareSet?_written {items : List String} (nonempty : items ≠ [])
    (bare : ∀ item ∈ items, isBareToken item = true) (rest : List Char) :
    bareSet? (setOf (items.map String.toList) ++ rest) = some (items, rest) := by
  have token : ∀ item ∈ items.map String.toList,
      (∀ c ∈ item, isBareChar c = true) ∧ item ≠ [] := by
    intro item member
    obtain ⟨text, listed, rfl⟩ := List.mem_map.mp member
    have holds := bare text listed
    simp only [isBareToken, Bool.and_eq_true, List.all_eq_true, Bool.not_eq_true'] at holds
    refine ⟨fun c found => by simpa [isBareChar] using holds.2 c found, fun empty => ?_⟩
    simp [String.toList_eq_nil_iff.mp empty] at holds
  have known : ReadsItems (many? isBareChar) id (items.map String.toList) := by
    constructor
    · intro item member stop stops rest
      obtain ⟨chars, kept⟩ := token item member
      have fails : isBareChar stop = false := by
        simp only [List.mem_cons, List.not_mem_nil, or_false] at stops
        rcases stops with rfl | rfl <;> decide
      exact many?_append chars kept fails rest
    · intro item member rest
      obtain ⟨chars, kept⟩ := token item member
      obtain ⟨c, cs, rfl⟩ := List.exists_cons_of_ne_nil kept
      refine ⟨c, cs ++ rest, rfl, ?_⟩
      have char := chars c List.mem_cons_self
      simp only [isBareChar, Bool.not_eq_true', Bool.or_eq_false_iff] at char
      rw [← Bool.not_eq_true]
      intro gap
      have blank := isBlank_of_isAsciiBlank (isAsciiBlank_of_isGap gap)
      simp [blank] at char
  have read := set?_written (by simpa using nonempty) known rest
  simpa [bareSet?, Function.comp_def] using read

end Sets

end EdgePolicy.Expression
