import Mathlib.Data.List.Basic
import EdgePolicy.Json.Reader
import EdgePolicy.Proofs.Text.Digits

/-
Number literals in front of what may follow a value.

The longest literal at the front of a text is read.  It does not change when a blank, a comma or a
closing bracket is put behind the text (`literal?_append`), as `Extends` says part by part.  A
number whose own text stands for it is readable; every integer of 64 bits is (`isReadable_integer`),
but some binary64 numbers are not (`exists_not_isReadable`), because literals are not always read as
the number nearest to them.
-/

set_option autoImplicit false
set_option relaxedAutoImplicit false

namespace EdgePolicy.Json

open EdgePolicy.Text (digits digitValue? digitsValue isGap maxWord64 takeDigits)
open Reader (exponent? exponentDigits? fraction? literal? someDigits? whole?)

/-- What may follow a value inside a container, blanks included, or nothing at all. -/
def Delimited (rest : List Char) : Prop :=
  ∀ c ∈ rest.head?, isGap c = true ∨ c = ',' ∨ c = ']' ∨ c = '\x7d'

theorem delimited_nil : Delimited [] := fun _ here => nomatch here

theorem delimited_cons {c : Char} (ends : isGap c = true ∨ c = ',' ∨ c = ']' ∨ c = '\x7d')
    (cs : List Char) : Delimited (c :: cs) := fun other here => by
  cases here
  exact ends

theorem Delimited.plain {rest : List Char} (ends : Delimited rest) :
    ∀ c ∈ rest.head?, c ≠ '.' ∧ c ≠ 'e' ∧ c ≠ 'E' ∧ digitValue? c = none := by
  intro c here
  rcases ends c here with gap | rfl | rfl | rfl
  · simp only [isGap, Bool.or_eq_true, beq_iff_eq] at gap
    rcases gap with ((rfl | rfl) | rfl) | rfl <;> decide
  all_goals decide

private theorem Delimited.digitless {rest : List Char} (ends : Delimited rest) :
    ∀ c ∈ rest.head?, digitValue? c = none := fun c here => (ends.plain c here).2.2.2

private theorem fraction?_plain {c : Char} (pointless : c ≠ '.') (cs : List Char) :
    fraction? (c :: cs) = some ([], c :: cs) := by
  unfold fraction?
  split
  · next same => exact absurd (List.cons.inj same).1 pointless
  · rfl

private theorem exponent?_plain {c : Char} (lower : c ≠ 'e') (upper : c ≠ 'E') (cs : List Char) :
    exponent? (c :: cs) = some (none, c :: cs) := by
  unfold exponent?
  split
  · next same => exact absurd (List.cons.inj same).1 lower
  · next same => exact absurd (List.cons.inj same).1 upper
  · rfl

/-- A part of a text is read no further when a given rest is put behind the text. -/
def Extends {α : Type} (rest : List Char) (read? : List Char → Option (α × List Char)) : Prop :=
  ∀ cs value more, read? cs = some (value, more) → read? (cs ++ rest) = some (value, more ++ rest)

namespace Extends

variable {α β : Type} {rest : List Char}

theorem map {read? : List Char → Option (α × List Char)} (extend : Extends rest read?)
    (f : α → β) : Extends rest fun cs => (read? cs).map fun taken => (f taken.1, taken.2) := by
  intro cs value more read
  obtain ⟨⟨value', more'⟩, some, same⟩ := Option.map_eq_some_iff.mp read
  cases same
  show (read? (cs ++ rest)).map _ = _
  rw [extend cs value' more' some]
  rfl

theorem bind {read? : List Char → Option (α × List Char)}
    {next? : α → List Char → Option (β × List Char)} (first : Extends rest read?)
    (later : ∀ value, Extends rest (next? value)) :
    Extends rest fun cs => (read? cs).bind fun taken => next? taken.1 taken.2 := by
  intro cs value more read
  obtain ⟨⟨value', more'⟩, some, read⟩ := Option.bind_eq_some_iff.mp read
  show (read? (cs ++ rest)).bind _ = _
  rw [first cs value' more' some]
  exact later value' more' value more read

end Extends

private theorem takeDigits_append {value? : Char → Option Nat} {rest : List Char}
    (stops : ∀ c ∈ rest.head?, value? c = none) (cs : List Char) :
    takeDigits value? (cs ++ rest) =
      ((takeDigits value? cs).1, (takeDigits value? cs).2 ++ rest) := by
  induction cs with
  | nil => exact @Text.takeDigits_digits value? [] rest (fun _ none => nomatch none) stops
  | cons c cs ih =>
    rw [List.cons_append, takeDigits, takeDigits]
    cases value? c with
    | none => rfl
    | some d => rw [ih]

section

variable {rest : List Char} (ends : Delimited rest)
include ends

private theorem extends_someDigits? : Extends rest someDigits? := by
  intro cs ds more read
  unfold someDigits? at read ⊢
  rw [takeDigits_append ends.digitless]
  rcases taken : takeDigits digitValue? cs with ⟨_ | ⟨d, ds'⟩, more'⟩
  · rw [taken] at read
    cases read
  · rw [taken] at read
    cases read
    rfl

private theorem extends_whole? : Extends rest whole? := by
  intro cs ds more read
  unfold whole? at read ⊢
  obtain ⟨⟨ds', more'⟩, some, read⟩ := Option.bind_eq_some_iff.mp read
  rw [extends_someDigits? ends cs ds' more' some]
  rcases ds' with _ | ⟨_ | d, _ | ⟨next, ds'⟩⟩ <;> cases read <;> rfl

private theorem extends_fraction? : Extends rest fraction? := by
  intro cs ds more read
  cases cs with
  | nil =>
    cases read
    cases rest with
    | nil => rfl
    | cons c cs => exact fraction?_plain (ends.plain c rfl).1 cs
  | cons c cs =>
    by_cases point : c = '.'
    · subst point
      exact extends_someDigits? ends cs ds more read
    · rw [fraction?_plain point] at read
      cases read
      exact fraction?_plain point (cs ++ rest)

private theorem extends_exponentDigits? : Extends rest exponentDigits? := by
  have taken (negative : Bool) := (extends_someDigits? ends).map (ExponentPart.mk negative)
  intro cs part more read
  cases cs with
  | nil => cases read
  | cons c cs =>
    by_cases plus : c = '+'
    · subst plus
      exact taken false cs part more read
    by_cases minus : c = '-'
    · subst minus
      exact taken true cs part more read
    have plain : ∀ cs, exponentDigits? (c :: cs) = (someDigits? (c :: cs)).map fun taken =>
        (⟨false, taken.1⟩, taken.2) := fun cs => by
      unfold exponentDigits?
      split
      · next same => exact absurd (List.cons.inj same).1 plus
      · next same => exact absurd (List.cons.inj same).1 minus
      · rfl
    rw [plain] at read
    rw [List.cons_append, plain]
    exact taken false (c :: cs) part more read

private theorem extends_exponent? : Extends rest exponent? := by
  have taken := (extends_exponentDigits? ends).map some
  intro cs part more read
  cases cs with
  | nil =>
    cases read
    cases rest with
    | nil => rfl
    | cons c cs => exact exponent?_plain (ends.plain c rfl).2.1 (ends.plain c rfl).2.2.1 cs
  | cons c cs =>
    by_cases lower : c = 'e'
    · subst lower
      exact taken cs part more read
    by_cases upper : c = 'E'
    · subst upper
      exact taken cs part more read
    rw [exponent?_plain lower upper] at read
    cases read
    exact exponent?_plain lower upper (cs ++ rest)

end

/-- A literal whose sign has been read, part by part. -/
def unsigned? (negative : Bool) (cs : List Char) : Option (Literal × List Char) :=
  (whole? cs).bind fun whole =>
    (fraction? whole.2).bind fun fraction =>
      (exponent? fraction.2).map fun exponent =>
        (⟨negative, whole.1, fraction.1, exponent.1⟩, exponent.2)

theorem literal?_minus (cs : List Char) : literal? ('-' :: cs) = unsigned? true cs := by
  unfold unsigned?
  simp only [Option.map_eq_bind]
  rfl

theorem literal?_plain {c : Char} (plain : c ≠ '-') (cs : List Char) :
    literal? (c :: cs) = unsigned? false (c :: cs) := by
  unfold literal? unsigned?
  simp only [Option.map_eq_bind]
  split
  · next same => exact absurd (List.cons.inj same).1 plain
  · rfl

private theorem extends_unsigned? {rest : List Char} (ends : Delimited rest) (negative : Bool) :
    Extends rest (unsigned? negative) := by
  have last (whole fraction : List Nat) :=
    (extends_exponent? ends).map (Literal.mk negative whole fraction)
  have middle (whole : List Nat) := (extends_fraction? ends).bind (last whole)
  exact (extends_whole? ends).bind middle

/-- A literal is read up to what follows the value. -/
theorem literal?_append {cs rest : List Char} {literal : Literal}
    (read : literal? cs = some (literal, [])) (ends : Delimited rest) :
    literal? (cs ++ rest) = some (literal, rest) := by
  cases cs with
  | nil => cases read
  | cons c cs =>
    by_cases minus : c = '-'
    · subst minus
      rw [literal?_minus] at read
      rw [List.cons_append, literal?_minus]
      exact extends_unsigned? ends true cs literal [] read
    · rw [literal?_plain minus] at read
      rw [List.cons_append, literal?_plain minus]
      exact extends_unsigned? ends false (c :: cs) literal [] read

theorem literal?_head {cs : List Char} {taken : Literal × List Char}
    (read : literal? cs = some taken) :
    ∃ c rest, cs = c :: rest ∧
      c ∉ ['\t', '\n', '\r', ' ', 'n', 't', 'f', '"', '[', ']', '\x7b'] := by
  cases cs with
  | nil => cases read
  | cons c cs =>
    refine ⟨c, cs, rfl, fun mark => ?_⟩
    have marks : ∀ c ∈ ['\t', '\n', '\r', ' ', 'n', 't', 'f', '"', '[', ']', '\x7b'],
        c ≠ '-' ∧ digitValue? c = none := by decide
    obtain ⟨plain, none⟩ := marks c mark
    have empty : unsigned? false (c :: cs) = Option.none := by
      simp [unsigned?, whole?, someDigits?, takeDigits, none]
    rw [literal?_plain plain, empty] at read
    cases read

/-- The text of a number is a literal that stands for the number. -/
def Number.isReadable (number : Number) : Bool :=
  match literal? number.text with
  | some (literal, []) => literal.value? == some number
  | _ => false

theorem whole?_digits (n : Nat) :
    ∃ ds, whole? (digits n) = some (ds, []) ∧ digitsValue 10 ds = n := by
  obtain ⟨ds, written, bounds, nonempty, value⟩ := Text.spells_digits n
  have taken : takeDigits digitValue? (digits n) = (ds, []) := by
    have read := @Text.takeDigits_digits digitValue? ds []
      (fun d member => Text.digitValue?_digitChar (bounds d member)) fun _ none => nomatch none
    rwa [List.append_nil, ← written] at read
  refine ⟨ds, ?_, value⟩
  rcases ds with _ | ⟨_ | d, _ | ⟨next, ds⟩⟩
  · exact absurd rfl nonempty
  · simp [whole?, someDigits?, taken]
  · -- More than one digit, the first of which is a zero.
    rcases Nat.eq_zero_or_pos n with rfl | positive
    · exact absurd (congrArg List.length written) (by simp [digits])
    · exact absurd (congrArg List.head? written) (Text.head_digits positive)
  · simp [whole?, someDigits?, taken]
  · simp [whole?, someDigits?, taken]

private theorem gather_digits (ds : List Nat) (significand : Nat)
    (fits : ds.foldl (fun value d => value * 10 + d) significand ≤ maxWord64) :
    Literal.gather significand ds = (ds.foldl (fun value d => value * 10 + d) significand, []) := by
  induction ds generalizing significand with
  | nil => rfl
  | cons d ds ih =>
    have grows : ∀ (ds : List Nat) (value : Nat),
        value ≤ ds.foldl (fun value d => value * 10 + d) value := by
      intro ds
      induction ds with
      | nil => exact fun _ => le_rfl
      | cons d ds ih =>
        intro value
        rw [List.foldl_cons]
        exact Nat.le_trans (by omega) (ih (value * 10 + d))
    rw [List.foldl_cons] at fits ⊢
    rw [Literal.gather, if_pos (Nat.le_trans (grows ds _) fits), ih _ fits]

/-- Every integer of 64 bits, with or without a sign, is readable. -/
theorem isReadable_integer {value : Int} (low : -(2 ^ 63) ≤ value) (high : value < 2 ^ 64) :
    (Number.integer value).isReadable = true := by
  obtain ⟨ds, whole, written⟩ := whole?_digits value.natAbs
  have fits : digitsValue 10 ds ≤ maxWord64 := by
    have bound : maxWord64 = 2 ^ 64 - 1 := rfl
    omega
  have gathered : Literal.gather 0 ds = (value.natAbs, []) := by
    rw [gather_digits ds 0 fits]
    exact congrArg (·, []) written
  have unsigned (negative : Bool) :
      unsigned? negative (digits value.natAbs) = some (⟨negative, ds, [], none⟩, []) := by
    unfold unsigned?
    rw [whole]
    rfl
  have read : literal? (Number.integer value).text =
      some (⟨decide (value < 0), ds, [], none⟩, []) := by
    simp only [Number.text]
    by_cases negative : value < 0
    · rw [if_pos negative, decide_eq_true negative, ← unsigned true]
      exact literal?_minus _
    · rw [if_neg negative, decide_eq_false negative, ← unsigned false]
      obtain ⟨d, bound, head⟩ := (Text.spells_digits value.natAbs).head []
      rw [List.append_nil] at head
      obtain ⟨rest, shape⟩ := List.head?_eq_some_iff.mp head
      have digit : ∀ d < 10, Nat.digitChar d ≠ '-' := by decide
      rw [List.nil_append, shape]
      exact literal?_plain (digit d bound) rest
  have stands : (⟨decide (value < 0), ds, [], none⟩ : Literal).value? = some (.integer value) := by
    simp only [Literal.value?, gathered]
    by_cases negative : value < 0
    · have small : ¬ (value.natAbs = 0 ∨ Nat.pow 2 63 < value.natAbs) := by
        have bound : Nat.pow 2 63 = 2 ^ 63 := rfl
        omega
      have same : -(value.natAbs : Int) = value := by omega
      simp only [List.isEmpty_nil, Option.isNone_none, Bool.and_self, if_true, negative,
        decide_true, Bool.not_true, Bool.false_eq_true, if_false, if_neg small, same]
    · have same : (value.natAbs : Int) = value := by omega
      simp only [List.isEmpty_nil, Option.isNone_none, Bool.and_self, if_true, negative,
        decide_false, Bool.not_false, same]
  unfold Number.isReadable
  simp only [read, stands, beq_self_eq_true]

/-- A literal that is read as the number above the nearest one, which is written as itself and read
back as the nearest one. -/
theorem exists_not_isReadable :
    ∃ number, ((literal? "5e32".toList).bind fun taken => taken.1.value?) = some number ∧
      number.isReadable = false := by
  decide +kernel

end EdgePolicy.Json
