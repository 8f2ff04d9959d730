import EdgePolicy.Journal.Timestamp
import EdgePolicy.Proofs.Text.Digits

/-
Points in time are read back as they were written (`ofChars?_chars`), and every point in time that
is read exists (`isValid_of_ofChars?`).

Every field is written with the width that it is read with, and the year and the fraction end where
no digit follows.
-/

set_option autoImplicit false
set_option relaxedAutoImplicit false

namespace EdgePolicy.Timestamp

open Text (Spells digitValue? digitsValue expect? isBlank padded spells_padded length_padded)

theorem skipBlanks_cons {c : Char} (solid : isBlank c = false) (rest : List Char) :
    skipBlanks (c :: rest) = c :: rest :=
  List.dropWhile_cons_of_neg (by simp [solid])

private theorem isBlank_digitChar {d : Nat} (bound : d < 10) : isBlank d.digitChar = false := by
  revert d
  decide

private theorem skipBlanks_spelled {n : Nat} {cs : List Char} (spells : Spells n cs)
    (rest : List Char) :
    skipBlanks (cs ++ rest) = cs ++ rest := by
  obtain ⟨d, bound, first⟩ := spells.head rest
  obtain ⟨more, shape⟩ := List.head?_eq_some_iff.mp first
  rw [shape]
  exact skipBlanks_cons (isBlank_digitChar bound) more

private theorem number?_spelled {width n : Nat} {cs rest : List Char} (spells : Spells n cs)
    (fits : cs.length ≤ width)
    (stops : cs.length < width → ∀ c ∈ rest.head?, digitValue? c = none) :
    number? width (cs ++ rest) = some (n, rest) := by
  have ends : ∀ c ∈ (rest.take (width - cs.length)).head?, digitValue? c = none := by
    intro c here
    by_cases full : cs.length < width
    · rw [List.head?_take, if_neg (by omega)] at here
      exact stops full c here
    · rw [Nat.sub_eq_zero_of_le (by omega), List.take_zero] at here
      exact nomatch here
  obtain ⟨ds, run, length, nonempty, value⟩ := spells.takeDigits ends
  have cut : (cs ++ rest).take width = cs ++ rest.take (width - cs.length) := by
    rw [List.take_append, List.take_of_length_le fits]
  have empty : ds.isEmpty = false := by
    rwa [← Bool.not_eq_true, List.isEmpty_iff]
  simp only [number?, cut, run, empty, value, length, List.drop_left, Bool.false_eq_true, if_false]

private theorem field?_padded {n : Nat} (bound : n < 100) (rest : List Char) :
    field? (padded 2 n ++ rest) = some (n, rest) := by
  have length : (padded 2 n).length = 2 := length_padded (by decide) bound
  unfold field?
  rw [skipBlanks_spelled (spells_padded 2 n)]
  exact number?_spelled (spells_padded 2 n) (Nat.le_of_eq length) (by omega)

private theorem separator?_cons {c : Char} (solid : isBlank c = false) (rest : List Char) :
    separator? c (c :: rest) = some rest := by
  unfold separator?
  rw [skipBlanks_cons solid]
  exact Text.expect?_append [c] rest

private theorem year?_spelled {year : Nat} {cs : List Char} (spells : Spells year cs)
    (length : cs.length = 4) (rest : List Char) :
    year? (cs ++ rest) = some ((year : Int), rest) := by
  have read : number? 4 (cs ++ rest) = some (year, rest) :=
    number?_spelled spells (Nat.le_of_eq length) (by omega)
  obtain ⟨d, bound, first⟩ := spells.head rest
  have signless : ∀ d < 10, Nat.digitChar d ≠ '-' ∧ Nat.digitChar d ≠ '+' := by decide
  unfold year?
  rw [skipBlanks_spelled spells]
  split
  · rename_i negative
    rw [negative] at first
    exact absurd (Option.some.inj first).symm (signless d bound).1
  · rename_i positive
    rw [positive] at first
    exact absurd (Option.some.inj first).symm (signless d bound).2
  · rw [read]
    rfl

private theorem year?_yearText (year : Int) (rest : List Char) :
    year? (yearText year ++ '-' :: rest) = some (year, '-' :: rest) := by
  unfold yearText
  by_cases plain : 0 ≤ year ∧ year ≤ 9999
  · have length : (padded 4 year.toNat).length = 4 := length_padded (by decide) (by omega)
    rw [if_pos plain, year?_spelled (spells_padded 4 year.toNat) length,
      Int.toNat_of_nonneg plain.1]
  · -- Behind a sign the digits run up to the hyphen.
    have read : number? (padded 4 year.natAbs ++ '-' :: rest).length
        (padded 4 year.natAbs ++ '-' :: rest) = some (year.natAbs, '-' :: rest) :=
      number?_spelled (spells_padded 4 year.natAbs) (by simp) (by simp [digitValue?])
    rw [if_neg plain]
    by_cases negative : year < 0
    · rw [if_pos negative, List.cons_append]
      unfold year?
      rw [skipBlanks_cons (by decide)]
      simp only [read, Option.map_some]
      rw [Int.ofNat_natAbs_of_nonpos (by omega), Int.neg_neg]
    · rw [if_neg negative, List.cons_append]
      unfold year?
      rw [skipBlanks_cons (by decide)]
      simp only [read, Option.map_some]
      rw [Int.natAbs_of_nonneg (by omega)]

private theorem fraction?_padded {width n : Nat} (bounds : 0 < width ∧ width ≤ 9)
    (fits : n < 10 ^ width) {rest : List Char} (stops : ∀ c ∈ rest.head?, digitValue? c = none) :
    fraction? ('.' :: (padded width n ++ rest)) = some (n * 10 ^ (9 - width), rest) := by
  obtain ⟨ds, run, length, nonempty, value⟩ := (spells_padded width n).takeDigits stops
  rw [length_padded bounds.1 fits] at length
  have empty : ds.isEmpty = false := by
    rwa [← Bool.not_eq_true, List.isEmpty_iff]
  have kept : ds.take 9 = ds := List.take_of_length_le (by omega)
  unfold fraction?
  simp only [run, empty, kept, value, length, Bool.false_eq_true, if_false]
  rfl

private theorem fraction?_fractionText {nanosecond : Nat} (bound : nanosecond < 1000000000)
    {rest : List Char} (stops : ∀ c ∈ rest.head?, digitValue? c = none ∧ c ≠ '.') :
    fraction? (fractionText nanosecond ++ rest) = some (nanosecond, rest) := by
  have stops' : ∀ c ∈ rest.head?, digitValue? c = none := fun c here => (stops c here).1
  unfold fractionText
  by_cases none : nanosecond = 0
  · rw [if_pos none, none, List.nil_append]
    unfold fraction?
    split
    · rename_i pointed
      exact absurd rfl (stops '.' rfl).2
    · rfl
  rw [if_neg none]
  by_cases milli : nanosecond % 1000000 = 0
  · rw [if_pos milli, List.cons_append, fraction?_padded (by decide) (by omega) stops']
    congr 2
    omega
  rw [if_neg milli]
  by_cases micro : nanosecond % 1000 = 0
  · rw [if_pos micro, List.cons_append, fraction?_padded (by decide) (by omega) stops']
    congr 2
    omega
  · rw [if_neg micro, List.cons_append, fraction?_padded (by decide) (by omega) stops']
    congr 2
    omega

private theorem takeOff_zero {t : Timestamp} (hour : t.hour < 24) (minute : t.minute < 60) :
    t.takeOff 0 = t := by
  have after : ¬ ((t.hour : Int) * 60 + t.minute - 0 < 0) := by omega
  have before : ¬ (1440 ≤ (t.hour : Int) * 60 + t.minute - 0) := by omega
  have ofDay : (((t.hour : Int) * 60 + t.minute - 0) % 1440).toNat = t.hour * 60 + t.minute := by
    omega
  simp only [takeOff, if_neg after, if_neg before, ofDay]
  have hours : (t.hour * 60 + t.minute) / 60 = t.hour := by omega
  have minutes : (t.hour * 60 + t.minute) % 60 = t.minute := by omega
  rw [hours, minutes]

private theorem daysIn_le (year : Int) (month : Nat) : Date.daysIn year month ≤ 31 := by
  unfold Date.daysIn
  repeat' split
  all_goals omega

/-- A point in time is read back. -/
theorem ofChars?_chars {t : Timestamp} (valid : t.isValid = true) : ofChars? t.chars = some t := by
  have whole := valid
  simp only [isValid, Date.isValid, Bool.and_eq_true, decide_eq_true_eq] at valid
  obtain ⟨⟨⟨⟨⟨⟨⟨-, month⟩, -⟩, day⟩, hour⟩, minute⟩, second⟩, nanosecond⟩ := valid
  have days := daysIn_le t.date.year t.date.month
  have fraction : fraction? (fractionText t.nanosecond ++ ['Z']) = some (t.nanosecond, ['Z']) := by
    refine fraction?_fractionText nanosecond fun c here => ?_
    obtain rfl : 'Z' = c := Option.some.inj here
    decide
  have shape : t.chars = yearText t.date.year ++ '-' :: (padded 2 t.date.month ++
      '-' :: (padded 2 t.date.day ++ 'T' :: (padded 2 t.hour ++ ':' :: (padded 2 t.minute ++
      ':' :: (padded 2 t.second ++ (fractionText t.nanosecond ++ ['Z'])))))) := by
    simp only [chars, List.append_assoc, List.cons_append]
  have hyphen : isBlank '-' = false := by decide
  have colon : isBlank ':' = false := by decide
  -- Each step reads what the shape has next.
  rw [shape]
  refine Option.bind_eq_some_iff.mpr ⟨_, year?_yearText _ _, ?_⟩
  refine Option.bind_eq_some_iff.mpr ⟨_, separator?_cons hyphen _, ?_⟩
  refine Option.bind_eq_some_iff.mpr ⟨_, field?_padded (by omega) _, ?_⟩
  refine Option.bind_eq_some_iff.mpr ⟨_, separator?_cons hyphen _, ?_⟩
  refine Option.bind_eq_some_iff.mpr ⟨_, field?_padded (by omega) _, ?_⟩
  refine Option.bind_eq_some_iff.mpr ⟨_, rfl, ?_⟩
  refine Option.bind_eq_some_iff.mpr ⟨_, field?_padded (by omega) _, ?_⟩
  refine Option.bind_eq_some_iff.mpr ⟨_, separator?_cons colon _, ?_⟩
  refine Option.bind_eq_some_iff.mpr ⟨_, field?_padded (by omega) _, ?_⟩
  refine Option.bind_eq_some_iff.mpr ⟨_, separator?_cons colon _, ?_⟩
  refine Option.bind_eq_some_iff.mpr ⟨_, field?_padded (by omega) _, ?_⟩
  refine Option.bind_eq_some_iff.mpr ⟨_, fraction, ?_⟩
  refine Option.bind_eq_some_iff.mpr ⟨(0, []), rfl, ?_⟩
  have unmoved : takeOff ⟨⟨t.date.year, t.date.month, t.date.day⟩, t.hour, t.minute, t.second,
      t.nanosecond⟩ 0 = t := takeOff_zero hour minute
  simp [skipBlanks, unmoved, whole]

/-- A point in time that is read exists. -/
theorem isValid_of_ofChars? {cs : List Char} {t : Timestamp} (read : ofChars? cs = some t) :
    t.isValid = true := by
  -- The parts are read one after the other, and the time is checked at the end.
  obtain ⟨_, -, read⟩ := Option.bind_eq_some_iff.mp read
  obtain ⟨_, -, read⟩ := Option.bind_eq_some_iff.mp read
  obtain ⟨_, -, read⟩ := Option.bind_eq_some_iff.mp read
  obtain ⟨_, -, read⟩ := Option.bind_eq_some_iff.mp read
  obtain ⟨_, -, read⟩ := Option.bind_eq_some_iff.mp read
  dsimp only at read
  split at read
  case h_4 =>
    obtain ⟨_, absent, -⟩ := Option.bind_eq_some_iff.mp read
    cases absent
  all_goals
    obtain ⟨_, -, read⟩ := Option.bind_eq_some_iff.mp read
    obtain ⟨_, -, read⟩ := Option.bind_eq_some_iff.mp read
    obtain ⟨_, -, read⟩ := Option.bind_eq_some_iff.mp read
    obtain ⟨_, -, read⟩ := Option.bind_eq_some_iff.mp read
    obtain ⟨_, -, read⟩ := Option.bind_eq_some_iff.mp read
    obtain ⟨_, -, read⟩ := Option.bind_eq_some_iff.mp read
    obtain ⟨_, -, read⟩ := Option.bind_eq_some_iff.mp read
    obtain ⟨_, -, read⟩ := Option.bind_eq_some_iff.mp read
    split at read
    · next whole =>
      cases read
      exact whole.2.2.2
    · cases read

end EdgePolicy.Timestamp
