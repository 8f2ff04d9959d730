import Mathlib.Algebra.Order.Ring.Nat
import Mathlib.Data.List.Forall2
import Mathlib.Data.List.Induction
import EdgePolicy.Text.Digits

/-
Digits that are written are read back.

`Spells` says that some characters are the decimal digits of a number.  The digits of a number and
its digits filled up with zeros both spell it, so whoever reads the longest run of digits at the
front finds the number again.  What the readers accept is said exactly by `takeDigits_eq_iff` and
`natural?_eq_some`.
-/

set_option autoImplicit false
set_option relaxedAutoImplicit false

namespace EdgePolicy.Text

private theorem digitsValue_concat (radix : Nat) (ds : List Nat) (d : Nat) :
    digitsValue radix (ds ++ [d]) = digitsValue radix ds * radix + d :=
  List.foldl_append

private theorem digitsValue_zeros (radix count : Nat) (ds : List Nat) :
    digitsValue radix (List.replicate count 0 ++ ds) = digitsValue radix ds := by
  induction count with
  | zero => rfl
  | succ count ih =>
    have drop : digitsValue radix (0 :: (List.replicate count 0 ++ ds)) =
        digitsValue radix (List.replicate count 0 ++ ds) := by
      simp [digitsValue]
    rw [List.replicate_succ, List.cons_append, drop, ih]

theorem digitsValue_lastDigits (radix count n : Nat) :
    digitsValue radix (lastDigits radix count n) = n % radix ^ count := by
  induction count generalizing n with
  | zero => exact (Nat.mod_one n).symm
  | succ count ih =>
    rw [lastDigits, digitsValue_concat, ih, Nat.pow_succ, Nat.mul_comm (radix ^ count) radix,
      Nat.mod_mul, Nat.mul_comm radix]
    exact Nat.add_comm _ _

theorem lt_of_mem_lastDigits {radix count n d : Nat} (positive : 0 < radix)
    (member : d ∈ lastDigits radix count n) : d < radix := by
  induction count generalizing n with
  | zero => exact nomatch member
  | succ count ih =>
    rcases List.mem_append.mp member with before | last
    · exact ih before
    · rw [List.mem_singleton.mp last]
      exact Nat.mod_lt n positive

theorem lastDigits_injective {radix count n m : Nat} (bound : n < radix ^ count)
    (bound' : m < radix ^ count) (same : lastDigits radix count n = lastDigits radix count m) :
    n = m := by
  have values := congrArg (digitsValue radix) same
  rwa [digitsValue_lastDigits, digitsValue_lastDigits, Nat.mod_eq_of_lt bound,
    Nat.mod_eq_of_lt bound'] at values

theorem digitValue?_digitChar {d : Nat} (bound : d < 10) : digitValue? d.digitChar = some d := by
  revert d
  decide

theorem hexValue?_digitChar {d : Nat} (bound : d < 16) : hexValue? d.digitChar = some d := by
  revert d
  decide

theorem takeDigits_digits {value? : Char → Option Nat} {ds : List Nat} {rest : List Char}
    (reads : ∀ d ∈ ds, value? d.digitChar = some d)
    (stops : ∀ c ∈ rest.head?, value? c = none) :
    takeDigits value? (ds.map Nat.digitChar ++ rest) = (ds, rest) := by
  induction ds with
  | nil =>
    cases rest with
    | nil => rfl
    | cons c cs => simp only [List.map_nil, List.nil_append, takeDigits, stops c rfl]
  | cons d ds ih =>
    obtain ⟨head, tail⟩ := List.forall_mem_cons.mp reads
    simp only [List.map_cons, List.cons_append, takeDigits, head, ih tail]

/-- Some characters are decimal digits, at least one, of a number. -/
def Spells (n : Nat) (cs : List Char) : Prop :=
  ∃ ds : List Nat, cs = ds.map Nat.digitChar ∧ (∀ d ∈ ds, d < 10) ∧ ds ≠ [] ∧
    digitsValue 10 ds = n

theorem spells_digits (n : Nat) : Spells n (digits n) := by
  induction n using Nat.strongRecOn with
  | ind n ih =>
    unfold digits
    rw [Nat.toDigits_eq_if (by decide)]
    by_cases small : n < 10
    · rw [if_pos small]
      exact ⟨[n], rfl, List.forall_mem_singleton.mpr small, List.cons_ne_nil _ _,
        by simp [digitsValue]⟩
    · rw [if_neg small]
      obtain ⟨ds, written, bounds, -, value⟩ := ih (n / 10) (by omega)
      refine ⟨ds ++ [n % 10], ?_, ?_,
        List.append_ne_nil_of_right_ne_nil _ (List.cons_ne_nil _ _), ?_⟩
      · have front : Nat.toDigits 10 (n / 10) = ds.map Nat.digitChar := written
        rw [front, List.map_append]
        rfl
      · exact List.forall_mem_append.mpr
          ⟨bounds, List.forall_mem_singleton.mpr (Nat.mod_lt n (by decide))⟩
      · rw [digitsValue_concat, value]
        omega

theorem spells_padded (width n : Nat) : Spells n (padded width n) := by
  obtain ⟨ds, written, bounds, nonempty, value⟩ := spells_digits n
  refine ⟨List.replicate (width - (digits n).length) 0 ++ ds, ?_, ?_,
    List.append_ne_nil_of_right_ne_nil _ nonempty, ?_⟩
  · rw [List.map_append, List.map_replicate, ← written]
    rfl
  · refine List.forall_mem_append.mpr ⟨fun d zero => ?_, bounds⟩
    rw [List.eq_of_mem_replicate zero]
    decide
  · rw [digitsValue_zeros, value]

theorem length_padded {width n : Nat} (positive : 0 < width) (fits : n < 10 ^ width) :
    (padded width n).length = width := by
  have bound : (digits n).length ≤ width :=
    (Nat.length_toDigits_le_iff (by decide) positive).mpr fits
  rw [padded, List.length_append, List.length_replicate]
  omega

theorem Spells.head {n : Nat} {cs : List Char} (spells : Spells n cs) (rest : List Char) :
    ∃ d < 10, (cs ++ rest).head? = some d.digitChar := by
  obtain ⟨ds, rfl, bounds, nonempty, -⟩ := spells
  obtain ⟨d, more, rfl⟩ := List.exists_cons_of_ne_nil nonempty
  exact ⟨d, bounds d List.mem_cons_self, rfl⟩

theorem Spells.takeDigits {n : Nat} {cs rest : List Char} (spells : Spells n cs)
    (stops : ∀ c ∈ rest.head?, digitValue? c = none) :
    ∃ ds, Text.takeDigits digitValue? (cs ++ rest) = (ds, rest) ∧ ds.length = cs.length ∧
      ds ≠ [] ∧ digitsValue 10 ds = n := by
  obtain ⟨ds, rfl, bounds, nonempty, value⟩ := spells
  have reads : ∀ d ∈ ds, digitValue? d.digitChar = some d := fun d member =>
    digitValue?_digitChar (bounds d member)
  exact ⟨ds, takeDigits_digits reads stops, (List.length_map _).symm, nonempty, value⟩

theorem head_digits {n : Nat} (positive : 0 < n) : (digits n).head? ≠ some '0' := by
  induction n using Nat.strongRecOn with
  | ind n ih =>
    unfold digits
    rw [Nat.toDigits_eq_if (by decide)]
    by_cases small : n < 10
    · rw [if_pos small]
      have single : ∀ d < 10, 0 < d → [Nat.digitChar d].head? ≠ some '0' := by decide
      exact single n small positive
    · rw [if_neg small, List.head?_append_of_ne_nil _ Nat.toDigits_ne_nil]
      exact ih (n / 10) (by omega) (by omega)

private theorem digitChar_of_digitValue? {c : Char} {d : Nat} (read : digitValue? c = some d) :
    c = d.digitChar ∧ d < 10 := by
  unfold digitValue? at read
  split at read
  · next range =>
    obtain rfl := Option.some.inj read
    have marks : '0'.toNat = 48 ∧ '9'.toNat = 57 := by decide
    have low : '0'.toNat ≤ c.toNat := UInt32.le_iff_toNat_le.mp range.1
    have high : c.toNat ≤ '9'.toNat := UInt32.le_iff_toNat_le.mp range.2
    have written : ∀ d < 10, d.digitChar.toNat = 48 + d := by decide
    refine ⟨Char.toNat_inj.mp ?_, by omega⟩
    rw [written _ (by omega)]
    omega
  · nomatch read

def Reads (value? : Char → Option Nat) (cs : List Char) (ds : List Nat) : Prop :=
  List.Forall₂ (fun c d => value? c = some d) cs ds

theorem Reads.isSome {value? : Char → Option Nat} {cs : List Char} {ds : List Nat}
    (reads : Reads value? cs ds) : ∀ c ∈ cs, (value? c).isSome = true := by
  induction reads with
  | nil => exact List.forall_mem_nil _
  | cons read _ ih => exact List.forall_mem_cons.mpr ⟨by rw [read]; rfl, ih⟩

theorem reads_digitValue? {cs : List Char} {ds : List Nat} :
    Reads digitValue? cs ds ↔ cs = ds.map Nat.digitChar ∧ ∀ d ∈ ds, d < 10 := by
  constructor
  · intro reads
    induction reads with
    | nil => exact ⟨rfl, List.forall_mem_nil _⟩
    | cons read _ ih =>
      obtain ⟨rfl, bound⟩ := digitChar_of_digitValue? read
      exact ⟨congrArg (_ :: ·) ih.1, List.forall_mem_cons.mpr ⟨bound, ih.2⟩⟩
  · rintro ⟨rfl, bounds⟩
    exact List.forall₂_map_left_iff.mpr
      (List.forall₂_same.mpr fun d member => digitValue?_digitChar (bounds d member))

theorem spells_iff_reads {n : Nat} {cs : List Char} :
    Spells n cs ↔ ∃ ds, Reads digitValue? cs ds ∧ ds ≠ [] ∧ digitsValue 10 ds = n := by
  simp only [Spells, reads_digitValue?, and_assoc]

/-- The digits that are taken are those in front of the first other character. -/
theorem takeDigits_eq_iff {value? : Char → Option Nat} {cs rest : List Char} {ds : List Nat} :
    takeDigits value? cs = (ds, rest) ↔
      ∃ front, Reads value? front ds ∧ (∀ c ∈ rest.head?, value? c = none) ∧
        cs = front ++ rest := by
  constructor
  · intro taken
    induction cs generalizing ds with
    | nil =>
      obtain ⟨rfl, rfl⟩ := Prod.mk.inj taken
      exact ⟨[], .nil, nofun, rfl⟩
    | cons c cs ih =>
      unfold takeDigits at taken
      split at taken
      · next d read =>
        obtain ⟨rfl, rfl⟩ := Prod.mk.inj taken
        obtain ⟨front, reads, stops, shape⟩ := ih rfl
        exact ⟨c :: front, .cons read reads, stops, congrArg (c :: ·) shape⟩
      · next other =>
        obtain ⟨rfl, rfl⟩ := Prod.mk.inj taken
        refine ⟨[], .nil, fun d first => ?_, rfl⟩
        obtain rfl := Option.some.inj first
        exact other
  · rintro ⟨front, reads, stops, rfl⟩
    induction reads with
    | nil =>
      cases rest with
      | nil => rfl
      | cons c rest => simp only [List.nil_append, takeDigits, stops c rfl]
    | cons read _ ih => simp only [List.cons_append, takeDigits, read, ih]

private theorem digitsValue_pos {ds : List Nat} (nonempty : ds ≠ []) (leading : ds.head? ≠ some 0) :
    0 < digitsValue 10 ds := by
  have grows : ∀ (ds : List Nat) (value : Nat), 0 < value →
      0 < ds.foldl (fun value d => value * 10 + d) value := by
    intro ds
    induction ds with
    | nil => exact fun _ positive => positive
    | cons d ds ih => exact fun value positive => ih (value * 10 + d) (by omega)
  obtain ⟨d, ds, rfl⟩ := List.exists_cons_of_ne_nil nonempty
  have notZero : d ≠ 0 := fun zero => leading (congrArg some zero)
  exact grows ds (0 * 10 + d) (by omega)

theorem digits_digitsValue {ds : List Nat} (bounds : ∀ d ∈ ds, d < 10) (nonempty : ds ≠ [])
    (leading : ds.head? = some 0 → ds = [0]) :
    digits (digitsValue 10 ds) = ds.map Nat.digitChar := by
  induction ds using List.reverseRecOn with
  | nil => exact absurd rfl nonempty
  | append_singleton ds d ih =>
    obtain ⟨bounds, last⟩ := List.forall_mem_append.mp bounds
    have bound : d < 10 := last d List.mem_cons_self
    rw [digitsValue_concat, digits, Nat.toDigits_eq_if (by decide)]
    by_cases empty : ds = []
    · have value : digitsValue 10 ds * 10 + d = d := by rw [empty]; exact Nat.zero_add d
      rw [value, if_pos bound, empty]
      rfl
    · -- More than one digit, so the first of them is no zero.
      have leading' : ds.head? ≠ some 0 := fun zero => by
        have whole := leading (by rw [List.head?_append_of_ne_nil _ empty, zero])
        have one := congrArg List.length whole
        have some := List.length_pos_of_ne_nil empty
        rw [List.length_append, List.length_singleton, List.length_singleton] at one
        omega
      have positive := digitsValue_pos empty leading'
      have front : (digitsValue 10 ds * 10 + d) / 10 = digitsValue 10 ds := by omega
      have back : (digitsValue 10 ds * 10 + d) % 10 = d := by omega
      have written := ih bounds empty fun zero => absurd zero leading'
      rw [if_neg (by omega), front, back, List.map_append]
      exact congrArg (· ++ _) written

private theorem readDigits?_eq_some {value n : Nat} {cs : List Char} :
    readDigits? value cs = some n ↔
      ∃ ds, Reads digitValue? cs ds ∧ ds.foldl (fun value d => value * 10 + d) value = n := by
  constructor
  · intro read
    induction cs generalizing value with
    | nil => exact ⟨[], .nil, Option.some.inj read⟩
    | cons c cs ih =>
      obtain ⟨d, digit, more⟩ := Option.bind_eq_some_iff.mp read
      obtain ⟨ds, reads, total⟩ := ih more
      exact ⟨d :: ds, .cons digit reads, total⟩
  · rintro ⟨ds, reads, rfl⟩
    induction reads generalizing value with
    | nil => rfl
    | cons digit _ ih => exact Option.bind_eq_some_iff.mpr ⟨_, digit, ih⟩

private theorem readWithin_eq_some {bound n : Nat} {count : List Char} :
    (if count.isEmpty then none else
      (readDigits? 0 count).bind fun value => if value ≤ bound then some value else none) = some n ↔
        n ≤ bound ∧ Spells n count := by
  constructor
  · intro read
    split at read
    · cases read
    · next filled =>
      obtain ⟨value, digits, fits⟩ := Option.bind_eq_some_iff.mp read
      obtain ⟨ds, reads, total⟩ := readDigits?_eq_some.mp digits
      split at fits
      · next fits' =>
        obtain rfl := Option.some.inj fits
        refine ⟨fits', spells_iff_reads.mpr ⟨ds, reads, ?_, total⟩⟩
        rintro rfl
        cases reads
        exact filled rfl
      · cases fits
  · rintro ⟨fits, spells⟩
    obtain ⟨ds, reads, nonempty, total⟩ := spells_iff_reads.mp spells
    have filled : ¬ count.isEmpty = true := by
      intro empty
      obtain rfl := List.isEmpty_iff.mp empty
      cases reads
      exact nonempty rfl
    have read : readDigits? 0 count = some n := readDigits?_eq_some.mpr ⟨ds, reads, total⟩
    rw [if_neg filled, read, Option.bind_some, if_pos fits]

private theorem Spells.ne_plus {n : Nat} {count : List Char} (spells : Spells n count) :
    ∀ rest, count ≠ '+' :: rest := by
  rintro rest rfl
  obtain ⟨ds, reads, -, -⟩ := spells_iff_reads.mp spells
  cases reads with
  | cons read _ => cases read

/-- A number is read off its digits, and a plus sign may stand in front of them. -/
theorem natural?_eq_some {bound n : Nat} {cs : List Char} :
    natural? bound (String.ofList cs) = some n ↔
      n ≤ bound ∧ ∃ sign count, (sign = [] ∨ sign = ['+']) ∧ Spells n count ∧
        cs = sign ++ count := by
  unfold natural?
  rw [String.toList_ofList]
  dsimp only
  split
  · next rest =>
    refine readWithin_eq_some.trans (and_congr_right fun _ => ?_)
    constructor
    · exact fun spells => ⟨['+'], rest, .inr rfl, spells, rfl⟩
    · rintro ⟨sign, count, rfl | rfl, spells, shape⟩
      · exact absurd shape.symm (spells.ne_plus rest)
      · obtain rfl := (List.cons.inj shape).2
        exact spells
  · next notPlus =>
    refine readWithin_eq_some.trans (and_congr_right fun _ => ?_)
    constructor
    · exact fun spells => ⟨[], cs, .inl rfl, spells, rfl⟩
    · rintro ⟨sign, count, rfl | rfl, spells, rfl⟩
      · exact spells
      · exact absurd rfl (notPlus count)

end EdgePolicy.Text
