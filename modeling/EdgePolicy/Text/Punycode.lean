/-
Punycode: a label beyond ASCII written in ASCII.

The ASCII characters of a label come first.  The others follow in the order of their code points,
each as the distance from the one before, in digits of base 36 with thresholds that adapt to the
distances so far.  Reading takes one digit at a time and puts each character into its place as soon
as its distance ends.
-/

set_option autoImplicit false
set_option relaxedAutoImplicit false

namespace EdgePolicy.Text.Punycode

def digit (n : Nat) : Char :=
  if n < 26 then Char.ofNat ('a'.toNat + n) else Char.ofNat ('0'.toNat + n - 26)

def threshold (bias place : Nat) : Nat :=
  max 1 (min 26 (place - bias))

theorem threshold_pos (bias place : Nat) : 1 ≤ threshold bias place := by
  unfold threshold
  omega

def distance (bias place n : Nat) : List Char :=
  let t := threshold bias place
  if n < t then [digit n]
  else digit (t + (n - t) % (36 - t)) :: distance bias (place + 36) ((n - t) / (36 - t))
termination_by n
decreasing_by
  have low := threshold_pos bias place
  have step : (n - threshold bias place) / (36 - threshold bias place)
      ≤ n - threshold bias place := Nat.div_le_self _ _
  omega

/-- Divide a distance until it is small, counting places. -/
def shrink (places n : Nat) : Nat :=
  if 455 < n then shrink (places + 36) (n / 35) else places + 36 * n / (n + 38)
termination_by n
decreasing_by omega

/-- The bias after a distance, given how many characters have been written. -/
def adapt (first : Bool) (count n : Nat) : Nat :=
  let scaled := if first then n / 700 else n / 2
  shrink 0 (scaled + scaled / count)

/-- What is kept while the characters of a label are written. -/
structure State where
  delta : Nat
  bias : Nat
  written : Nat
  first : Bool
  output : List Char

/-- Pass one character while the code point `point` is written. -/
def pass (point : Nat) (state : State) (c : Char) : State :=
  if c.toNat < point then { state with delta := state.delta + 1 }
  else if c.toNat = point then
    { delta := 0
      bias := adapt state.first (state.written + 1) state.delta
      written := state.written + 1
      first := false
      output := state.output ++ distance state.bias 36 state.delta }
  else state

/-- Write the code points of a label in order, given the one after the last one written. -/
def points (label : List Char) : List Nat → Nat → State → State
  | [], _, state => state
  | point :: rest, next, state =>
    let state := { state with delta := state.delta + (point - next) * (state.written + 1) }
    let state := label.foldl (pass point) state
    points label rest (point + 1) { state with delta := state.delta + 1 }

/-- A label in its ASCII form, without the mark of such labels. -/
def encode (label : List Char) : List Char :=
  let plain := label.filter (·.toNat < 0x80)
  let others := ((label.filter (0x80 ≤ ·.toNat)).map (·.toNat)).eraseDups.mergeSort
  let start := if plain.isEmpty then [] else plain ++ ['-']
  (points label others 0x80 ⟨0, 72, plain.length, true, start⟩).output

def digitValue? (c : Char) : Option Nat :=
  if c.isDigit then some (26 + (c.toNat - '0'.toNat))
  else if c.isAlpha then some (c.toLower.toNat - 'a'.toNat)
  else none

/-- What is kept while a label is read: the distance so far, the weight and the place of its next
digit, whether a digit of it has been read, where it started, and what has been put together. -/
structure Reader where
  distance : Nat
  weight : Nat
  place : Nat
  isOpen : Bool
  start : Nat
  point : Nat
  bias : Nat
  output : List Char

def Reader.of (plain : List Char) : Reader where
  distance := 0
  weight := 1
  place := 36
  isOpen := false
  start := 0
  point := 0x80
  bias := 72
  output := plain

/-- Put the character of a finished distance into its place. -/
def Reader.insert? (reader : Reader) : Option Reader :=
  let count := reader.output.length + 1
  let point := reader.point + reader.distance / count
  let index := reader.distance % count
  if point.isValidChar then
    some {
      distance := index + 1
      weight := 1
      place := 36
      isOpen := false
      start := index + 1
      point
      bias := adapt (reader.start == 0) count (reader.distance - reader.start)
      output := reader.output.insertIdx index (Char.ofNat point) }
  else none

def Reader.read? (reader : Reader) (c : Char) : Option Reader := do
  let value ← digitValue? c
  let limit := threshold reader.bias reader.place
  let reader := { reader with
    distance := reader.distance + value * reader.weight
    weight := reader.weight * (36 - limit)
    place := reader.place + 36
    isOpen := true }
  if value < limit then reader.insert? else some reader

/-- The parts of a written label before and behind its last hyphen.  A hyphen at the very start
stands for no ASCII characters. -/
def cut (cs : List Char) : List Char × List Char :=
  match cs.reverse.span (· != '-') with
  | (digits, _ :: plain) =>
    if plain.isEmpty then ([], cs) else (plain.reverse, digits.reverse)
  | (_, []) => ([], cs)

/-- Read a label from its ASCII form, without the mark of such labels. -/
def decode? (cs : List Char) : Option (List Char) := do
  let (plain, digits) := cut cs
  let reader ← digits.foldlM Reader.read? (Reader.of plain)
  if reader.isOpen then none else some reader.output

end EdgePolicy.Text.Punycode
