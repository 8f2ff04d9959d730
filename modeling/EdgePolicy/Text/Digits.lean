/-
Digits, and the decimal text of natural numbers.

Numbers are written without leading zeros.  They are read leniently: leading zeros and one plus
sign are accepted, anything else is refused, and so is a value above the bound of the field that is
being read.
-/

set_option autoImplicit false
set_option relaxedAutoImplicit false

namespace EdgePolicy.Text

def digitValue? (c : Char) : Option Nat :=
  if '0' ≤ c ∧ c ≤ '9' then some (c.toNat - '0'.toNat) else none

def hexValue? (c : Char) : Option Nat :=
  if '0' ≤ c ∧ c ≤ '9' then some (c.toNat - '0'.toNat)
  else if 'a' ≤ c ∧ c ≤ 'f' then some (c.toNat - 'a'.toNat + 10)
  else if 'A' ≤ c ∧ c ≤ 'F' then some (c.toNat - 'A'.toNat + 10)
  else none

/-- The longest run of digits at the front, by value, and the text behind it. -/
def takeDigits (value? : Char → Option Nat) : List Char → List Nat × List Char
  | [] => ([], [])
  | c :: cs =>
    match value? c with
    | some d =>
      let (ds, rest) := takeDigits value? cs
      (d :: ds, rest)
    | none => ([], c :: cs)

def digitsValue (radix : Nat) (ds : List Nat) : Nat :=
  ds.foldl (fun value d => value * radix + d) 0

/-- The last `count` digits of a number in a radix, by value. -/
def lastDigits (radix : Nat) : (count n : Nat) → List Nat
  | 0, _ => []
  | count + 1, n => lastDigits radix count (n / radix) ++ [n % radix]

theorem length_lastDigits (radix count n : Nat) : (lastDigits radix count n).length = count := by
  induction count generalizing n with
  | zero => rfl
  | succ count ih => simp [lastDigits, ih]

/-- The value of a run of decimal digits after the digits already read as `value`. -/
def readDigits? (value : Nat) : List Char → Option Nat
  | [] => some value
  | c :: cs => do readDigits? (value * 10 + (← digitValue? c)) cs

/-- Read a non-empty run of decimal digits, after an optional plus sign, as a number of at most
`bound`. -/
def natural? (bound : Nat) (s : String) : Option Nat := do
  let digits := match s.toList with
    | '+' :: cs => cs
    | cs => cs
  if digits.isEmpty then none
  let value ← readDigits? 0 digits
  if value ≤ bound then some value else none

/-- The largest value of an unsigned field of 64 bits. -/
def maxWord64 : Nat := UInt64.size - 1

/-- The largest value of an unsigned field of 32 bits. -/
def maxWord32 : Nat := UInt32.size - 1

/-- The largest value of an unsigned field of 8 bits. -/
def maxWord8 : Nat := UInt8.size - 1

def digits (n : Nat) : List Char :=
  Nat.toDigits 10 n

/-- The decimal digits of a number, filled up with zeros to at least `width` digits. -/
def padded (width n : Nat) : List Char :=
  List.replicate (width - (digits n).length) '0' ++ digits n

end EdgePolicy.Text
