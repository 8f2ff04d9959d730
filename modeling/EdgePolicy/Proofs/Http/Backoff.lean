import Mathlib.Data.ENat.Lattice
import EdgePolicy.Http.Retry

/-
How often something is attempted, and how long the pauses are.

A run makes one attempt, and one more behind a pause for every failure until something comes back or
the retries are used up (`Retry.attempt_observed`).  The pauses double from 200 milliseconds up to
30 seconds: the two steps that stay at the largest word instead of overflowing give the exact
product wherever it is below the bound (`Retry.delay_eq`), and so does arithmetic on words
(`Retry.toNat_delayWord`).
-/

set_option autoImplicit false
set_option relaxedAutoImplicit false

namespace EdgePolicy.Http.Retry

open EdgePolicy.Text (maxWord64)

section Delays

private theorem capped_saturated (power : Nat) :
    min (saturated (saturated power * baseDelay)) maxDelay = min (200 * power) 30000 := by
  have largest : maxWord64 = 18446744073709551615 := rfl
  simp only [saturated, baseDelay, maxDelay, largest]
  omega

/-- The delay before a retry is the doubled base, exactly, up to the bound. -/
theorem delay_eq (index : Nat) : delay index = min (200 * 2 ^ index) 30000 := by
  have capped : delay index = min (200 * 2 ^ min index 64) 30000 := capped_saturated _
  rw [capped]
  rcases Nat.le_total index 64 with within | beyond
  · rw [Nat.min_eq_left within]
  · have large : 2 ^ 64 ≤ 2 ^ index := Nat.pow_le_pow_right (by decide) beyond
    rw [Nat.min_eq_right beyond]
    omega

private theorem delay_mono {i j : Nat} (later : i ≤ j) : delay i ≤ delay j := by
  have grows : 2 ^ i ≤ 2 ^ j := Nat.pow_le_pow_right (by decide) later
  rw [delay_eq, delay_eq]
  omega

/-- The product of two words of 64 bits, or the largest word where that does not fit. -/
def timesWord (a b : UInt64) : UInt64 :=
  if a.toNat * b.toNat ≤ maxWord64 then a * b else .ofNat maxWord64

/-- A power of a word of 64 bits, or the largest word where that does not fit. -/
def powerWord (base : UInt64) : Nat → UInt64
  | 0 => 1
  | exponent + 1 => timesWord (powerWord base exponent) base

/-- The delay before the retry with an index, computed on words. -/
def delayWord (index : UInt32) : UInt64 :=
  min (timesWord (powerWord 2 index.toNat) 200) 30000

private theorem toNat_timesWord (a b : UInt64) : (timesWord a b).toNat = saturated
    (a.toNat * b.toNat) := by
  have largest : maxWord64 = 18446744073709551615 := rfl
  unfold timesWord saturated
  split
  · next fits =>
    rw [UInt64.toNat_mul, Nat.mod_eq_of_lt (by omega), Nat.min_eq_left fits]
  · next exceeds =>
    rw [Nat.min_eq_right (by omega)]
    rfl

private theorem toNat_powerWord (exponent : Nat) :
    (powerWord 2 exponent).toNat = saturated (2 ^ exponent) := by
  have largest : maxWord64 = 18446744073709551615 := rfl
  induction exponent with
  | zero => rfl
  | succ exponent ih =>
    have two : (2 : UInt64).toNat = 2 := rfl
    rw [powerWord, toNat_timesWord, ih, two, Nat.pow_succ]
    simp only [saturated, largest]
    omega

/-- On words of 64 bits nothing overflows, whatever word of 32 bits counts the retries. -/
theorem toNat_delayWord (index : UInt32) :
    (delayWord index).toNat = min (200 * 2 ^ index.toNat) 30000 := by
  have product : (timesWord (powerWord 2 index.toNat) 200).toNat =
      saturated (saturated (2 ^ index.toNat) * baseDelay) := by
    rw [toNat_timesWord, toNat_powerWord]
    rfl
  have bound : (30000 : UInt64).toNat = maxDelay := rfl
  rw [← capped_saturated, ← product, ← bound]
  exact UInt64.toNat_min _ _

end Delays

/-- What happens in a run. -/
inductive Event where
  | attempted
  | paused (milliseconds : Nat)
deriving DecidableEq, Repr

section Runs

variable {ε α : Type}

/-- An attempt whose outcome is the next of a sequence, noted in the course of events. -/
def observed (outcomes : Nat → Except ε α) : StateM (List Event) (Except ε α) :=
  fun course => (outcomes (course.count .attempted), course ++ [.attempted])

/-- A pause, noted in the course of events. -/
def observedPause (milliseconds : Nat) : StateM (List Event) Unit :=
  fun course => ((), course ++ [.paused milliseconds])

/-- The number of failures before something comes back, infinite when nothing ever does. -/
noncomputable def failures (outcomes : Nat → Except ε α) : ℕ∞ :=
  ⨅ (index : Nat) (_ : (outcomes index).isOk = true), (index : ℕ∞)

def retriesFrom (index made : Nat) : List Event :=
  (List.range' index made).flatMap fun i => [.paused (min (200 * 2 ^ i) 30000), .attempted]

/-- A run with some retries: an attempt, then the retries. -/
def course (made : Nat) : List Event := .attempted :: retriesFrom 0 made

private theorem retriesFrom_succ (index made : Nat) :
    retriesFrom index (made + 1) =
      .paused (delay index) :: .attempted :: retriesFrom (index + 1) made := by
  rw [delay_eq]
  rfl

private theorem count_retriesFrom (index made : Nat) :
    (retriesFrom index made).count .attempted = made := by
  induction made generalizing index with
  | zero => rfl
  | succ made ih =>
    rw [retriesFrom_succ, List.count_cons_of_ne Event.noConfusion, List.count_cons_self, ih]

private theorem attemptFrom_step (outcomes : Nat → Except ε α) {index : Nat} (retries : Nat)
    {before : List Event} (counted : before.count .attempted = index) :
    (attemptFrom observedPause (observed outcomes) index (retries + 1)).run before =
      match outcomes index with
      | .ok value => (.ok value, before ++ [.attempted])
      | .error _ => (attemptFrom observedPause (observed outcomes) (index + 1) retries).run
          (before ++ [.attempted] ++ [.paused (delay index)]) := by
  have attempted : (observed outcomes).run before = (outcomes index, before ++ [.attempted]) :=
    counted ▸ rfl
  rw [attemptFrom, StateT.run_bind, attempted]
  cases outcomes index <;> rfl

private theorem attemptFrom_observed (outcomes : Nat → Except ε α) (index retries : Nat)
    (before : List Event) (counted : before.count .attempted = index) :
    ∃ made, made ≤ retries ∧ (∀ i < made, (outcomes (index + i)).isOk = false) ∧
      ((outcomes (index + made)).isOk = true ∨ made = retries) ∧
      (attemptFrom observedPause (observed outcomes) index retries).run before =
        (outcomes (index + made), before ++ .attempted :: retriesFrom index made) := by
  -- The attempts noted so far number the next outcome, and the retries left shrink.
  induction retries generalizing index before with
  | zero =>
    refine ⟨0, le_rfl, fun _ none => absurd none (Nat.not_lt_zero _), .inr rfl, ?_⟩
    rw [attemptFrom, ← counted]
    rfl
  | succ retries ih =>
    have step := attemptFrom_step outcomes retries counted
    cases outcome : outcomes index with
    | ok value =>
      rw [outcome] at step
      refine ⟨0, Nat.zero_le _, fun _ none => absurd none (Nat.not_lt_zero _), .inl ?_, ?_⟩
      · rw [Nat.add_zero, outcome]
        rfl
      · show _ = (outcomes index, before ++ [.attempted])
        rw [outcome]
        exact step
    | error fault =>
      rw [outcome] at step
      have counted' : (before ++ [Event.attempted] ++ [Event.paused (delay index)]).count
          .attempted = index + 1 := by
        rw [List.append_assoc, List.count_append, counted]
        rfl
      obtain ⟨made, most, failed, stopped, ran⟩ := ih (index + 1) _ counted'
      have next : index + (made + 1) = index + 1 + made := by omega
      refine ⟨made + 1, Nat.succ_le_succ most, ?_, ?_, ?_⟩
      · rintro (_ | i) within
        · rw [Nat.add_zero, outcome]
          rfl
        · rw [show index + (i + 1) = index + 1 + i by omega]
          exact failed i (Nat.lt_of_succ_lt_succ within)
      · rw [next]
        exact stopped.imp_right (congrArg (· + 1))
      · refine step.trans (ran.trans ?_)
        rw [next, retriesFrom_succ, List.append_assoc, List.append_assoc]
        rfl

private theorem failures_le {outcomes : Nat → Except ε α} {n : Nat}
    (back : (outcomes n).isOk = true) :
    failures outcomes ≤ n :=
  iInf₂_le n back

private theorem le_failures_iff {outcomes : Nat → Except ε α} {n : Nat} :
    (n : ℕ∞) ≤ failures outcomes ↔ ∀ i < n, (outcomes i).isOk = false := by
  constructor
  · intro least i early
    refine Bool.eq_false_iff.mpr fun back => ?_
    exact absurd (Nat.cast_le.mp (least.trans (failures_le back))) (Nat.not_le_of_lt early)
  · intro failed
    refine le_iInf₂ fun i back => Nat.cast_le.mpr (Nat.le_of_not_lt fun early => ?_)
    rw [failed i early] at back
    nomatch back

private theorem isOk_of_failures {outcomes : Nat → Except ε α} {n : Nat}
    (first : failures outcomes = n) : (outcomes n).isOk = true := by
  by_contra failed
  have earlier := le_failures_iff.mp first.ge
  have more : ((n + 1 : Nat) : ℕ∞) ≤ failures outcomes := by
    refine le_failures_iff.mpr fun i within => ?_
    rcases Nat.lt_succ_iff_lt_or_eq.mp within with early | rfl
    · exact earlier i early
    · exact Bool.eq_false_iff.mpr failed
  exact absurd (Nat.cast_le.mp (more.trans first.le)) (Nat.not_succ_le_self n)

private theorem made_eq {outcomes : Nat → Except ε α} {made retries : Nat} (most : made ≤ retries)
    (failed : ∀ i < made, (outcomes i).isOk = false)
    (stopped : (outcomes made).isOk = true ∨ made = retries) :
    (made : ℕ∞) = min (failures outcomes) retries := by
  refine le_antisymm (le_min (le_failures_iff.mpr failed) (Nat.cast_le.mpr most)) ?_
  rcases stopped with back | rfl
  · exact min_le_of_left_le (failures_le back)
  · exact min_le_right _ _

end Runs

/-- However a sequence of attempts turns out, a run makes one attempt and a retry for every failure
before something comes back, as long as retries are left; it ends with that, or with the last
failure.  The pause before each retry is the doubled base up to the bound, which words of 64 bits
give exactly for every number of retries that a word of 32 bits counts. -/
theorem attempt_observed {ε α : Type} (outcomes : Nat → Except ε α) (retries : Nat) :
    ∃ made : Nat, (made : ℕ∞) = min (failures outcomes) retries ∧
      (attempt observedPause retries (observed outcomes)).run [] = (outcomes made, course made) ∧
      (course made).count .attempted = made + 1 ∧
      (failures outcomes ≤ retries →
        (made : ℕ∞) = failures outcomes ∧ ∃ value, outcomes made = .ok value) ∧
      (retries < failures outcomes → made = retries ∧ ∃ fault, outcomes made = .error fault) ∧
      (∀ index : UInt32, delay index.toNat = (delayWord index).toNat ∧
        delay index.toNat = min (200 * 2 ^ index.toNat) 30000) ∧
      ∀ i j, i ≤ j → delay i ≤ delay j := by
  obtain ⟨made, most, failed, stopped, ran⟩ := attemptFrom_observed outcomes 0 retries [] rfl
  simp only [Nat.zero_add] at failed stopped ran
  have fewest := made_eq most failed stopped
  have delays : ∀ index : UInt32, delay index.toNat = (delayWord index).toNat ∧
      delay index.toNat = min (200 * 2 ^ index.toNat) 30000 := fun index =>
    ⟨(delay_eq _).trans (toNat_delayWord index).symm, delay_eq _⟩
  refine ⟨made, fewest, ran, ?_, fun enough => ?_, fun few => ?_, delays, fun _ _ => delay_mono⟩
  · rw [course, List.count_cons_self, count_retriesFrom]
  · have first : (made : ℕ∞) = failures outcomes := fewest.trans (min_eq_left enough)
    have back := isOk_of_failures first.symm
    refine ⟨first, ?_⟩
    cases outcome : outcomes made with
    | ok value => exact ⟨value, rfl⟩
    | error fault =>
      rw [outcome] at back
      nomatch back
  · obtain rfl : made = retries := Nat.cast_injective (fewest.trans (min_eq_right few.le))
    refine ⟨rfl, ?_⟩
    cases outcome : outcomes made with
    | ok value =>
      have back : failures outcomes ≤ made := failures_le (by rw [outcome]; rfl)
      exact absurd few back.not_gt
    | error fault => exact ⟨fault, rfl⟩

/-- Two failures, then responses of a status that says that the server is busy. -/
def busyServer (index : Nat) : Except String Nat :=
  if index < 2 then .error "connection refused" else .ok 503

private theorem failures_busyServer : failures busyServer = 2 := by
  refine le_antisymm (failures_le rfl) (le_failures_iff.mpr fun i early => ?_)
  rw [busyServer, if_pos early]
  rfl

/-- Two retries reach the response, whatever its status; with one the second failure is final. -/
theorem attempt_observed_sample :
    failures busyServer = 2 ∧
      (attempt observedPause 2 (observed busyServer)).run [] =
        (.ok 503, [.attempted, .paused 200, .attempted, .paused 400, .attempted]) ∧
      (attempt observedPause 1 (observed busyServer)).run [] =
        (.error "connection refused", [.attempted, .paused 200, .attempted]) := by
  refine ⟨failures_busyServer, ?_, ?_⟩
  · obtain ⟨made, -, ran, -, reached, -⟩ := attempt_observed busyServer 2
    have first := (reached failures_busyServer.le).1.trans failures_busyServer
    obtain rfl : made = 2 := Nat.cast_injective first
    exact ran
  · obtain ⟨made, -, ran, -, -, exhausted, -⟩ := attempt_observed busyServer 1
    have few : ((1 : Nat) : ℕ∞) < failures busyServer := by
      rw [failures_busyServer]
      exact Nat.cast_lt.mpr Nat.one_lt_two
    obtain rfl : made = 1 := (exhausted few).1
    exact ran

end EdgePolicy.Http.Retry
