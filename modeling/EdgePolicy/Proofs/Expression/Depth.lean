import Mathlib.Data.Int.Basic
import EdgePolicy.Expression.Split

/-
The depth of the scanner as a number.

The word that counts open parentheses is never negative, so the scanner has a level in the natural
numbers, at most `deepest`.  Outside literals a parenthesis changes it by one (`step_open`,
`step_close`), and there is no step where the level would leave its range (`step_deepest`,
`step_bottom`).  `step_outside` lists everything a step outside of literals can do.
-/

set_option autoImplicit false
set_option relaxedAutoImplicit false

namespace EdgePolicy.Expression

/-- The greatest number of open parentheses that can be counted, one less than `2 ^ 31`. -/
def deepest : Nat := 2147483647

theorem lt_deepest {depth : Nat} (shallow : depth ≤ 1) : depth < deepest := by
  unfold deepest
  omega

/-- A character without a meaning to the scanner. -/
def isPlain (c : Char) : Bool := c != '"' && c != '(' && c != ')'

theorem isPlain_of_isBlank {c : Char} (blank : Text.isBlank c = true) : isPlain c = true := by
  rw [← Bool.not_eq_false]
  intro special
  simp only [isPlain, Bool.and_eq_false_iff, bne_eq_false_iff_eq] at special
  rcases special with (rfl | rfl) | rfl <;> exact absurd blank (by decide)

namespace Scanner

variable {scanner next : Scanner} {c : Char} {outer : Nat}

def level (scanner : Scanner) : Nat := scanner.depth.toInt.toNat

theorem toInt_depth (scanner : Scanner) : scanner.depth.toInt = scanner.level := by
  have nonneg := Int32.le_iff_toInt_le.mp scanner.depth_nonneg
  rw [Int32.toInt_zero] at nonneg
  exact (Int.toNat_of_nonneg nonneg).symm

theorem level_le (scanner : Scanner) : scanner.level ≤ deepest := by
  have bound := scanner.depth.toInt_lt
  rw [toInt_depth] at bound
  unfold deepest
  omega

@[simp]
theorem level_start : start.level = 0 := rfl

theorem atTopLevel_iff : scanner.atTopLevel = true ↔ scanner.literal = none ∧ scanner.level = 0 := by
  have zero : scanner.depth = 0 ↔ scanner.level = 0 := by
    rw [← Int32.toInt_inj, toInt_depth, Int32.toInt_zero]
    omega
  simp [atTopLevel, zero]

theorem atTopLevel_of_level (deep : scanner.level ≠ 0) : scanner.atTopLevel = false := by
  rw [← Bool.not_eq_true, atTopLevel_iff]
  exact fun top => deep top.2

/-- Behind a character at a level, with nothing else changed. -/
structure Moves (scanner : Scanner) (c : Char) (level : Nat) (next : Scanner) : Prop where
  literal : next.literal = scanner.literal
  escaped : next.escaped = scanner.escaped
  level_eq : next.level = level
  last : next.last = some c
  beforeLast : next.beforeLast = scanner.last

private theorem atDepth?_of_toInt {depth : Int32} {level : Nat} (value : depth.toInt = level) :
    ∃ next, (scanner.remember c).atDepth? depth = some next ∧ scanner.Moves c level next := by
  have nonneg : 0 ≤ depth := by
    rw [Int32.le_iff_toInt_le, value, Int32.toInt_zero]
    omega
  refine ⟨_, dif_pos nonneg, rfl, rfl, ?_, rfl, rfl⟩
  change depth.toInt.toNat = level
  rw [value, Int.toNat_natCast]

theorem atDepth?_eq_none {depth : Int32} : scanner.atDepth? depth = none ↔ depth < 0 := by
  unfold atDepth?
  rw [← Int32.not_le]
  split <;> simp_all

theorem atDepth?_eq_some {depth : Int32} : scanner.atDepth? depth = some next ↔
    ∃ depth_nonneg, { scanner with depth, depth_nonneg } = next := by
  rw [atDepth?, Option.dite_none_right_eq_some]
  exact exists_congr fun _ => Option.some_inj

private theorem atDepth?_of_neg {depth : Int32} (negative : depth.toInt < 0) :
    scanner.atDepth? depth = none := by
  rw [atDepth?_eq_none, Int32.lt_iff_toInt_lt, Int32.toInt_zero]
  exact negative

/-- A parenthesis opens, if the word can count it. -/
theorem step_open (outside : scanner.literal = none) (room : scanner.level < deepest) :
    ∃ next, scanner.step '(' = some next ∧ scanner.Moves '(' (scanner.level + 1) next := by
  have value : (scanner.depth + 1).toInt = (scanner.level + 1 : Nat) := by
    unfold deepest at room
    rw [Int32.toInt_add, toInt_depth, Int32.toInt_one, Int.bmod_eq_of_le] <;> omega
  obtain ⟨next, there, moves⟩ : ∃ next, (scanner.remember '(').atDepth? _ = some next ∧
      scanner.Moves '(' _ next := atDepth?_of_toInt value
  exact ⟨next, by simpa [step, outside] using there, moves⟩

/-- Past the greatest depth the word wraps around. -/
theorem step_deepest (outside : scanner.literal = none) (full : scanner.level = deepest) :
    scanner.step '(' = none := by
  have negative : (scanner.depth + 1).toInt < 0 := by
    rw [Int32.toInt_add, toInt_depth, Int32.toInt_one, full]
    decide
  simpa [step, outside] using atDepth?_of_neg negative

theorem step_close (outside : scanner.literal = none) (deep : scanner.level = outer + 1) :
    ∃ next, scanner.step ')' = some next ∧ scanner.Moves ')' outer next := by
  have bound := scanner.level_le
  have value : (scanner.depth - 1).toInt = outer := by
    unfold deepest at bound
    rw [Int32.toInt_sub, toInt_depth, Int32.toInt_one, deep, Int.bmod_eq_of_le] <;> omega
  obtain ⟨next, there, moves⟩ : ∃ next, (scanner.remember ')').atDepth? _ = some next ∧
      scanner.Moves ')' _ next := atDepth?_of_toInt value
  exact ⟨next, by simpa [step, outside] using there, moves⟩

theorem step_bottom (outside : scanner.literal = none) (bottom : scanner.level = 0) :
    scanner.step ')' = none := by
  have negative : (scanner.depth - 1).toInt < 0 := by
    rw [Int32.toInt_sub, toInt_depth, Int32.toInt_one, bottom]
    decide
  simpa [step, outside] using atDepth?_of_neg negative

theorem step_of_isPlain (outside : scanner.literal = none) (plain : isPlain c = true) :
    scanner.step c = some (scanner.remember c) := by
  simp only [isPlain, Bool.and_eq_true, bne_iff_ne] at plain
  obtain ⟨⟨notQuote, notOpen⟩, notClose⟩ := plain
  simp [step, outside, notQuote, notOpen, notClose]

theorem moves_of_open (outside : scanner.literal = none) (move : scanner.step '(' = some next) :
    scanner.level < deepest ∧ scanner.Moves '(' (scanner.level + 1) next := by
  rcases Nat.lt_or_ge scanner.level deepest with room | full
  · obtain ⟨next', move', moves⟩ := step_open outside room
    obtain rfl := Option.some.inj (move'.symm.trans move)
    exact ⟨room, moves⟩
  · rw [step_deepest outside (le_antisymm scanner.level_le full)] at move
    cases move

theorem moves_of_close (outside : scanner.literal = none) (move : scanner.step ')' = some next) :
    ∃ outer, scanner.level = outer + 1 ∧ scanner.Moves ')' outer next := by
  cases deep : scanner.level with
  | zero =>
    rw [step_bottom outside deep] at move
    cases move
  | succ outer =>
    obtain ⟨next', move', moves⟩ := step_close outside deep
    obtain rfl := Option.some.inj (move'.symm.trans move)
    exact ⟨outer, rfl, moves⟩

theorem literal_of_stuck (stuck : scanner.step c = none) : scanner.literal = none := by
  unfold step at stuck
  split at stuck
  · repeat' split at stuck
    all_goals nomatch stuck
  · split at stuck <;> nomatch stuck
  · assumption

theorem step_open_eq_none :
    scanner.step '(' = none ↔ scanner.literal = none ∧ scanner.level = deepest := by
  refine ⟨fun stuck => ⟨literal_of_stuck stuck, ?_⟩, fun full => step_deepest full.1 full.2⟩
  refine le_antisymm scanner.level_le (Nat.le_of_not_lt fun room => ?_)
  obtain ⟨next, move, -⟩ := step_open (literal_of_stuck stuck) room
  nomatch stuck.symm.trans move

/-- What a step outside of literals does. -/
theorem step_outside (outside : scanner.literal = none) (move : scanner.step c = some next) :
    (c = '"' ∧ next = { scanner.remember c with
      literal := some (if scanner.opensRaw then .raw else .quoted) }) ∨
    (c = '(' ∧ scanner.Moves c (scanner.level + 1) next) ∨
    (∃ outer, c = ')' ∧ scanner.level = outer + 1 ∧ scanner.Moves c outer next) ∨
    (isPlain c = true ∧ next = scanner.remember c) := by
  by_cases quote : c = '"'
  · subst quote
    refine .inl ⟨rfl, (Option.some.inj ?_).symm⟩
    rw [← move]
    simp [step, outside]
  by_cases opening : c = '('
  · subst opening
    exact .inr (.inl ⟨rfl, (moves_of_open outside move).2⟩)
  by_cases closing : c = ')'
  · subst closing
    obtain ⟨outer, deep, moves⟩ := moves_of_close outside move
    exact .inr (.inr (.inl ⟨outer, rfl, deep, moves⟩))
  have plain : isPlain c = true := by simp [isPlain, quote, opening, closing]
  rw [step_of_isPlain outside plain] at move
  exact .inr (.inr (.inr ⟨plain, (Option.some.inj move).symm⟩))

end Scanner

end EdgePolicy.Expression
