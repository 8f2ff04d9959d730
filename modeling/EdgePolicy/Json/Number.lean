import EdgePolicy.Number.Shortest

/-
The numbers of JSON: integers of 64 bits and binary64 numbers.

A literal without fraction and exponent is an integer where it fits into 64 bits; every other
literal is a binary64 number.  The significant digits are gathered in 64 bits; once they are full,
further whole digits only raise the exponent and further fraction digits are dropped.  The result
is then scaled by a rounded power of ten, so it is not always the number nearest to the literal.
-/

set_option autoImplicit false
set_option relaxedAutoImplicit false

namespace EdgePolicy.Json

open EdgePolicy.Number (Binary64)
open EdgePolicy.Text (maxWord64)

/-- A JSON number keeps its kind: `1` and `1.0` differ. -/
inductive Number where
  | integer (value : Int)
  | real (value : Binary64)
deriving DecidableEq, Repr, Inhabited

/-- Equality as numbers of one kind: the two zeros of `real` are equal. -/
def Number.same : Number → Number → Bool
  | .integer a, .integer b => a == b
  | .real a, .real b => a.same b
  | _, _ => false

def Number.text : Number → List Char
  | .integer value =>
    (if value < 0 then ['-'] else []) ++ EdgePolicy.Text.digits value.natAbs
  | .real value => value.text

/-- The exponent part of a literal: its sign and its digits. -/
structure ExponentPart where
  negative : Bool
  digits : List Nat
deriving Repr, Inhabited

/-- The parts of a number literal, digits by value. -/
structure Literal where
  negative : Bool
  whole : List Nat
  fraction : List Nat
  exponent : Option ExponentPart
deriving Repr, Inhabited

namespace Literal

/-- Take digits into a significand of 64 bits as long as they fit; the digits left over are
returned. -/
def gather (significand : Nat) : List Nat → Nat × List Nat
  | [] => (significand, [])
  | d :: ds =>
    if significand * 10 + d ≤ maxWord64 then gather (significand * 10 + d) ds
    else (significand, d :: ds)

def powerOfTen (exponent : Nat) : Binary64 :=
  (Binary64.ofRatio? false (Nat.pow 10 exponent) 1).getD (Binary64.zero false)

/-- Scale by a power of ten in steps of at most 308; none beyond the largest finite number.  Three
downward steps bring every significand to zero. -/
def scale? : Nat → Binary64 → Int → Option Binary64
  | 0, x, _ => some x
  | steps + 1, x, exponent =>
    if exponent.natAbs ≤ 308 then
      if 0 ≤ exponent then x.mul? (powerOfTen exponent.toNat)
      else x.div? (powerOfTen (-exponent).toNat)
    else if x.isZero then some x
    else if 0 ≤ exponent then none
    else do scale? steps (← x.div? (powerOfTen 308)) (exponent + 308)

/-- The number with the given significand and decimal exponent. -/
def assemble? (negative : Bool) (significand : Nat) (exponent : Int) : Option Number := do
  let start ← Binary64.ofRatio? negative significand 1
  return .real (← scale? 4 start exponent)

/-- The exponent digits as a number, none beyond 31 bits. -/
def exponentValue? (ds : List Nat) : Option Nat :=
  let value := EdgePolicy.Text.digitsValue 10 ds
  if value < Nat.pow 2 31 then some value else none

/-- Apply the exponent part.  An exponent beyond 31 bits yields zero, or no number at all. -/
def applyExponent? (negative : Bool) (significand : Nat) (start : Int) :
    Option ExponentPart → Option Number
  | none => assemble? negative significand start
  | some part =>
    match exponentValue? part.digits with
    | some value =>
      assemble? negative significand (if part.negative then start - value else start + value)
    | none =>
      if significand ≠ 0 ∧ part.negative = false then none
      else some (.real (Binary64.zero negative))

def value? (literal : Literal) : Option Number :=
  let (significand, dropped) := gather 0 literal.whole
  if literal.fraction.isEmpty && literal.exponent.isNone && dropped.isEmpty then
    if !literal.negative then some (.integer significand)
    else if significand = 0 ∨ Nat.pow 2 63 < significand then
      (Binary64.ofRatio? true significand 1).map .real
    else some (.integer (-significand))
  else
    let (full, rest) := gather significand literal.fraction
    let taken := literal.fraction.length - rest.length
    applyExponent? literal.negative full (dropped.length - taken) literal.exponent

end Literal

end EdgePolicy.Json
