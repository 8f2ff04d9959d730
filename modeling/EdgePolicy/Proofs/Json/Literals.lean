import Mathlib.Data.List.Forall2
import EdgePolicy.Proofs.Json.Numbers

/-
Every number is written as a literal (`Number.exists_literal`).

The digits of a number start with no zero but a single one, a point has digits on both sides of it,
and so has an exponent its own.  What the literal stands for is another matter: it need not be the
number.
-/

set_option autoImplicit false
set_option relaxedAutoImplicit false

namespace EdgePolicy

open EdgePolicy.Text (Reads digitValue? digits takeDigits)

namespace Number

namespace Shortest

variable {x : Binary64} {d : DecimalNumber}

private theorem digits_pos_of_onGrid? {leading : Int} {count : Nat}
    (found : onGrid? x leading count = some d) : 0 < d.digits := by
  unfold onGrid? at found
  dsimp only at found
  split at found
  · next fits =>
    cases found
    simp only [Bool.and_eq_true, decide_eq_true_eq] at fits
    exact Nat.pos_of_ne_zero fits.1.1
  · split at found
    · cases found
      exact Nat.succ_pos _
    · cases found

private theorem digits_pos_dropZeros (fuel : Nat) (positive : 0 < d.digits) :
    0 < (dropZeros fuel d).digits := by
  induction fuel generalizing d with
  | zero => exact positive
  | succ fuel ih =>
    unfold dropZeros
    split
    · next zero => exact ih (show 0 < d.digits / 10 by omega)
    · exact positive

private theorem digits_pos_decimal (x : Binary64) (nonzero : x.isZero = false) :
    0 < (decimal x).digits := by
  unfold decimal
  dsimp only
  split
  · next d found =>
    obtain ⟨count, -, grid⟩ := List.exists_of_findSome?_eq_some found
    exact digits_pos_dropZeros 17 (digits_pos_of_onGrid? grid)
  · have positive : 0 < x.mantissa := Nat.pos_of_ne_zero (by simpa [Binary64.isZero] using nonzero)
    show 0 < x.ratio.1
    unfold Binary64.ratio
    split
    · exact Nat.mul_pos positive (Nat.pow_pos (by decide))
    · exact positive

end Shortest

end Number

namespace Json

open Reader (exponent? exponentDigits? fraction? literal? someDigits? whole?)

variable {cs rest : List Char} {ds : List Nat}

private theorem someDigits?_reads (reads : Reads digitValue? cs ds) (nonempty : ds ≠ [])
    (stops : ∀ c ∈ rest.head?, digitValue? c = none) :
    someDigits? (cs ++ rest) = some (ds, rest) := by
  have taken : takeDigits digitValue? (cs ++ rest) = (ds, rest) :=
    Text.takeDigits_eq_iff.mpr ⟨cs, reads, stops, rfl⟩
  obtain ⟨d, more, rfl⟩ := List.exists_cons_of_ne_nil nonempty
  simp only [someDigits?, taken]

private theorem whole?_reads (reads : Reads digitValue? cs ds) (nonempty : ds ≠ [])
    (leading : ds.head? = some 0 → ds.length = 1) (stops : ∀ c ∈ rest.head?, digitValue? c = none) :
    whole? (cs ++ rest) = some (ds, rest) := by
  have taken := someDigits?_reads reads nonempty stops
  unfold whole?
  rw [taken]
  rcases ds with _ | ⟨_ | d, _ | ⟨next, ds⟩⟩
  · rfl
  · rfl
  · cases leading rfl
  · rfl
  · rfl

private theorem reads_digits_pos {n : Nat} (positive : 0 < n) :
    ∃ ds, Reads digitValue? (digits n) ds ∧ ds ≠ [] ∧ ds.head? ≠ some 0 := by
  obtain ⟨ds, reads, nonempty, -⟩ := Text.spells_iff_reads.mp (Text.spells_digits n)
  refine ⟨ds, reads, nonempty, fun zero => Text.head_digits positive ?_⟩
  rw [(Text.reads_digitValue?.mp reads).1, List.head?_map, zero]
  rfl

private theorem reads_zeros (count : Nat) :
    Reads digitValue? (List.replicate count '0') (List.replicate count 0) := by
  induction count with
  | zero => exact .nil
  | succ count ih => exact .cons rfl ih

section

variable {whole fraction : List Char} {ds ds' : List Nat} (negative : Bool)

private theorem unsigned?_point (reads : Reads digitValue? whole ds) (nonempty : ds ≠ [])
    (leading : ds.head? = some 0 → ds.length = 1) (reads' : Reads digitValue? fraction ds')
    (nonempty' : ds' ≠ []) :
    unsigned? negative (whole ++ '.' :: fraction) =
      some (⟨negative, ds, ds', none⟩, []) := by
  have front := @whole?_reads whole ('.' :: fraction) ds reads nonempty leading fun c point => by
    obtain rfl := Option.some.inj point
    decide
  have back := @someDigits?_reads fraction [] ds' reads' nonempty' nofun
  rw [List.append_nil] at back
  have behind : fraction? ('.' :: fraction) = some (ds', []) := back
  unfold unsigned?
  rw [front, Option.bind_some, behind]
  rfl

def powerText (power : Int) : List Char :=
  'e' :: ((if power < 0 then ['-'] else []) ++ digits power.natAbs)

private theorem exponent?_powerText (power : Int) :
    ∃ part, exponent? (powerText power) = some (some part, []) := by
  obtain ⟨ds, reads, nonempty, -⟩ := Text.spells_iff_reads.mp (Text.spells_digits power.natAbs)
  have taken := @someDigits?_reads _ [] ds reads nonempty nofun
  rw [List.append_nil] at taken
  have plain : exponentDigits? (digits power.natAbs) = some (⟨false, ds⟩, []) := by
    unfold exponentDigits?
    split
    · next shape =>
      rw [shape] at reads
      cases reads with
      | cons digit _ => cases digit
    · next shape =>
      rw [shape] at reads
      cases reads with
      | cons digit _ => cases digit
    · rw [taken]
      rfl
  have signed : exponentDigits? ('-' :: digits power.natAbs) = some (⟨true, ds⟩, []) := by
    show (someDigits? (digits power.natAbs)).map _ = _
    rw [taken]
    rfl
  by_cases below : power < 0
  · refine ⟨⟨true, ds⟩, ?_⟩
    rw [powerText, if_pos below, List.singleton_append, exponent?, signed]
    rfl
  · refine ⟨⟨false, ds⟩, ?_⟩
    rw [powerText, if_neg below, List.nil_append, exponent?, plain]
    rfl

private theorem unsigned?_scientific {d : Nat} {c : Char} (digit : digitValue? c = some d)
    (reads : Reads digitValue? fraction ds) (power : Int) :
    ∃ literal, unsigned? negative
      (c :: ((if fraction.isEmpty then [] else '.' :: fraction) ++ powerText power)) =
        some (literal, []) := by
  obtain ⟨part, last⟩ := exponent?_powerText power
  have mark : ∀ other ∈ (powerText power).head?, digitValue? other = none := fun other here => by
    obtain rfl := Option.some.inj here
    decide
  have single : Reads digitValue? [c] [d] := .cons digit .nil
  cases ds with
  | nil =>
    cases reads
    have front := @whole?_reads [c] (powerText power) [d] single (List.cons_ne_nil _ _)
      (fun _ => rfl) mark
    refine ⟨⟨negative, [d], [], some part⟩, ?_⟩
    unfold unsigned?
    rw [List.singleton_append] at front
    rw [List.isEmpty_nil, if_pos rfl, List.nil_append, front, Option.bind_some]
    show (exponent? (powerText power)).map _ = _
    rw [last]
    rfl
  | cons d' ds =>
    have filled : fraction.isEmpty = false := by
      cases reads
      rfl
    have front := @whole?_reads [c] ('.' :: (fraction ++ powerText power)) [d] single
      (List.cons_ne_nil _ _) (fun _ => rfl) fun other point => by
        obtain rfl := Option.some.inj point
        decide
    have middle := someDigits?_reads reads (List.cons_ne_nil _ _) mark
    refine ⟨⟨negative, [d], d' :: ds, some part⟩, ?_⟩
    unfold unsigned?
    rw [List.singleton_append] at front
    rw [filled, if_neg Bool.false_ne_true, List.cons_append, front, Option.bind_some]
    show (someDigits? (fraction ++ powerText power)).bind _ = _
    rw [middle, Option.bind_some, last]
    rfl

private theorem unsigned?_magnitudeText {d : Number.DecimalNumber} (positive : 0 < d.digits) :
    ∃ literal, unsigned? negative (Number.Shortest.magnitudeText d) = some (literal, []) := by
  obtain ⟨ds, reads, nonempty, leading⟩ := reads_digits_pos positive
  have length := reads.length_eq
  have filled := List.length_pos_iff.mpr nonempty
  unfold Number.Shortest.magnitudeText
  dsimp only
  split
  · next whole =>
    have zeros := reads_zeros d.exponent.toNat
    refine ⟨_, @unsigned?_point _ ['0'] _ [0] negative (List.rel_append reads zeros)
      (List.append_ne_nil_of_left_ne_nil nonempty _) (fun zero => ?_) (.cons rfl .nil)
      (List.cons_ne_nil _ _)⟩
    rw [List.head?_append_of_ne_nil _ nonempty] at zero
    exact absurd zero leading
  next fractional =>
  split
  · next inside =>
    generalize cut : ((digits d.digits).length + d.exponent).toNat = point
    have before : 0 < point ∧ point < ds.length := by omega
    refine ⟨_, unsigned?_point negative (List.forall₂_take point reads) ?_ (fun zero => ?_)
      (List.forall₂_drop point reads) ?_⟩
    · exact List.length_pos_iff.mp (by rw [List.length_take]; omega)
    · rw [List.head?_take, if_neg (by omega)] at zero
      exact absurd zero leading
    · exact List.length_pos_iff.mp (by rw [List.length_drop]; omega)
  split
  · next small =>
    exact ⟨_, @unsigned?_point ['0'] _ [0] _ negative (.cons rfl .nil) (List.cons_ne_nil _ _)
      (fun _ => rfl) (List.rel_append (reads_zeros _) reads)
      (List.append_ne_nil_of_right_ne_nil _ nonempty)⟩
  · generalize digits d.digits = text at reads
    cases reads with
    | nil => exact absurd rfl nonempty
    | @cons c _ cs _ digit more =>
      cases cs with
      | nil => exact unsigned?_scientific negative digit more _
      | cons next cs => exact unsigned?_scientific negative digit more _

end

private theorem literal?_signed {p : Prop} [Decidable p]
    (read : ∀ negative, ∃ literal, unsigned? negative cs = some (literal, [])) :
    ∃ literal, literal? ((if p then ['-'] else []) ++ cs) = some (literal, []) := by
  split
  · rw [List.singleton_append, literal?_minus]
    exact read true
  · rw [List.nil_append]
    obtain ⟨literal, taken⟩ := read false
    cases cs with
    | nil => cases taken
    | cons c cs =>
      have plain : c ≠ '-' := by
        rintro rfl
        cases taken
      exact ⟨literal, (literal?_plain plain cs).trans taken⟩

/-- Every number is written as a literal. -/
theorem Number.exists_literal (number : Number) :
    ∃ literal, literal? number.text = some (literal, []) := by
  cases number with
  | integer value =>
    refine literal?_signed fun negative => ?_
    obtain ⟨ds, whole, -⟩ := whole?_digits value.natAbs
    refine ⟨⟨negative, ds, [], none⟩, ?_⟩
    unfold unsigned?
    rw [whole]
    rfl
  | real x =>
    refine literal?_signed fun negative => ?_
    split
    · exact ⟨⟨negative, [0], [0], none⟩, rfl⟩
    · next nonzero =>
      exact unsigned?_magnitudeText negative
        (Number.Shortest.digits_pos_decimal x (Bool.not_eq_true _ ▸ nonzero))

/-- What the text of a number is read as; none when that is out of range. -/
def Number.reread (number : Number) : Option Number :=
  (literal? number.text).bind fun taken => taken.1.value?

theorem Number.literal?_reread (number : Number) :
    ∃ literal : Literal, literal? number.text = some (literal, []) ∧
      literal.value? = number.reread := by
  obtain ⟨literal, read⟩ := number.exists_literal
  refine ⟨literal, read, ?_⟩
  rw [reread, read, Option.bind_some]

theorem Number.isReadable_iff (number : Number) :
    number.isReadable = true ↔ number.reread = some number := by
  obtain ⟨literal, read, stands⟩ := number.literal?_reread
  rw [← stands]
  unfold isReadable
  rw [read]
  exact beq_iff_eq

end Json

end EdgePolicy
