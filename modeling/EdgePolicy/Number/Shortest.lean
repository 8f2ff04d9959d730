import EdgePolicy.Number.Binary64
import EdgePolicy.Text.Digits

/-
The shortest decimal text of a finite binary64 number.

The digits are the fewest that read back as the number, and of those the nearest to it.  Numbers
from `1e-5` up to `1e16` are written positionally and always with a fraction; the others in
scientific notation with one digit before the point.
-/

set_option autoImplicit false
set_option relaxedAutoImplicit false

namespace EdgePolicy.Number

open EdgePolicy.Text (digits)

/-- A positive decimal number `digits * 10 ^ exponent`. -/
structure DecimalNumber where
  digits : Nat
  exponent : Int
deriving DecidableEq, Repr, Inhabited

namespace Shortest

/-- The ratio `num / den` divided by `10 ^ exponent`, as a ratio of natural numbers. -/
def scaledTen (num den : Nat) (exponent : Int) : Nat × Nat :=
  if 0 ≤ exponent then (num, den * Nat.pow 10 exponent.toNat)
  else (num * Nat.pow 10 (-exponent).toNat, den)

/-- Raise a lower estimate of the decimal exponent of `num / den`, at most `steps` times. -/
def raiseExponent (num den : Nat) : Nat → Int → Int
  | 0, estimate => estimate
  | steps + 1, estimate =>
    let (n, d) := scaledTen num den (estimate + 1)
    if d ≤ n then raiseExponent num den steps (estimate + 1) else estimate

/-- The exponent of the leading decimal digit of `num / den`. -/
def leadingExponent (num den : Nat) : Int :=
  let binary : Int := (Nat.log2 num : Int) - (Nat.log2 den : Int)
  raiseExponent num den 4 (Int.fdiv (binary * 1233) 4096 - 2)

/-- The candidate `n * 10 ^ exponent` reads back as the number whose rounding interval is
`(4 m - low) / 4` to `(4 m + 2) / 4`, in units of `2 ^ binary`. -/
def readsBack (x : Binary64) (n : Nat) (exponent : Int) : Bool :=
  let low := if x.mantissa = Binary64.leastNormal ∧ Binary64.minExponent < x.exponent then 1 else 2
  let (num, den) := Binary64.scaled (if 0 ≤ exponent then n * Nat.pow 10 exponent.toNat else n)
    (if 0 ≤ exponent then 1 else Nat.pow 10 (-exponent).toNat) (x.exponent - 2)
  let closed := x.mantissa % 2 = 0
  let lower := (4 * x.mantissa - low) * den
  let upper := (4 * x.mantissa + 2) * den
  if closed then lower ≤ num && num ≤ upper else lower < num && num < upper

/-- The nearer of the two neighbours of the number on the grid of `count` digits that read back as
the number, if one does. -/
def onGrid? (x : Binary64) (leading : Int) (count : Nat) : Option DecimalNumber :=
  let exponent := leading - count + 1
  let (num, den) := scaledTen x.ratio.1 x.ratio.2 exponent
  let below := num / den
  let belowFits := below ≠ 0 && readsBack x below exponent
  let aboveFits := readsBack x (below + 1) exponent
  let rest := num % den
  if belowFits && (!aboveFits || 2 * rest < den || (2 * rest = den && below % 2 = 0)) then
    some ⟨below, exponent⟩
  else if aboveFits then some ⟨below + 1, exponent⟩
  else none

/-- Move trailing zeros of the digits into the exponent. -/
def dropZeros : Nat → DecimalNumber → DecimalNumber
  | 0, d => d
  | fuel + 1, d =>
    if d.digits % 10 = 0 ∧ d.digits ≠ 0 then dropZeros fuel ⟨d.digits / 10, d.exponent + 1⟩ else d

def decimal (x : Binary64) : DecimalNumber :=
  let leading := leadingExponent x.ratio.1 x.ratio.2
  match (List.range' 1 17).findSome? (onGrid? x leading) with
  | some d => dropZeros 17 d
  | none => ⟨x.ratio.1, 0⟩

/-- The magnitude of a number, positional from `1e-5` up to `1e16`. -/
def magnitudeText (d : DecimalNumber) : List Char :=
  let ds := digits d.digits
  let length : Int := ds.length
  let point := length + d.exponent
  if 0 ≤ d.exponent ∧ point ≤ 16 then
    ds ++ List.replicate d.exponent.toNat '0' ++ ['.', '0']
  else if 0 < point ∧ point ≤ 16 then
    ds.take point.toNat ++ '.' :: ds.drop point.toNat
  else if -5 < point ∧ point ≤ 0 then
    '0' :: '.' :: List.replicate (-point).toNat '0' ++ ds
  else
    let power := point - 1
    let tail := 'e' :: (if power < 0 then ['-'] else []) ++ digits power.natAbs
    match ds with
    | [] => tail
    | [single] => single :: tail
    | first :: rest => first :: '.' :: rest ++ tail

end Shortest

def Binary64.text (x : Binary64) : List Char :=
  (if x.negative then ['-'] else [])
    ++ (if x.isZero then ['0', '.', '0'] else Shortest.magnitudeText (Shortest.decimal x))

end EdgePolicy.Number
