import EdgePolicy.Text.Digits

/-
Tables over code points, written as text.

A table is a list of words in rising order.  A word names the first and the last code point of a
span in hexadecimal, the last one only where it differs, and then what the span stands for:
`41-5a:61`.  A look-up halves the spans that are left, so that it needs few steps in a long table.
-/

set_option autoImplicit false
set_option relaxedAutoImplicit false

namespace EdgePolicy.Text

/-- Code points from `first` to `last` that stand for the same thing. -/
structure Span (α : Type) where
  first : Nat
  last : Nat
  value : α

def hexNumber (cs : List Char) : Nat × List Char :=
  let (digits, rest) := takeDigits hexValue? cs
  (digitsValue 16 digits, rest)

def hexNumbers (cs : List Char) : List Nat :=
  (cs.splitOn ',').map fun number => (hexNumber number).1

def Span.ofWord {α : Type} (value : List Char → α) (word : List Char) : Span α :=
  let (first, rest) := hexNumber word
  match rest with
  | '-' :: rest =>
    let (last, rest) := hexNumber rest
    ⟨first, last, value rest⟩
  | _ => ⟨first, first, value rest⟩

/-- Spans in rising order. -/
structure Table (α : Type) where
  spans : Array (Span α)

namespace Table

/-- The table that a text names, given what is read behind the bounds of a span. -/
def ofText {α : Type} (value : List Char → α) (s : String) : Table α :=
  let words := (s.toList.splitOnP Char.isWhitespace).filter fun word => !word.isEmpty
  ⟨(words.map (Span.ofWord value)).toArray⟩

/-- The span of a code point among those from `low` up to `high`. -/
def seek {α : Type} (table : Table α) (n low high : Nat) : Option (Span α) :=
  if low < high then
    let middle := (low + high) / 2
    match table.spans[middle]? with
    | none => none
    | some span =>
      if n < span.first then seek table n low middle
      else if span.last < n then seek table n (middle + 1) high
      else some span
  else none
termination_by high - low

def span? {α : Type} (table : Table α) (n : Nat) : Option (Span α) :=
  table.seek n 0 table.spans.size

def find? {α : Type} (table : Table α) (n : Nat) : Option α :=
  (table.span? n).map (·.value)

end Table

end EdgePolicy.Text
