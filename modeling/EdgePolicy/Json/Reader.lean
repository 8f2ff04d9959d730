import EdgePolicy.Json.Document
import EdgePolicy.Text.Blank
import EdgePolicy.Text.Scan

/-
Reading JSON text.

The reader accepts exactly one document with blanks around it.  Every step takes at least one
character, so a fuel of one more than the length of the text is never used up.
-/

set_option autoImplicit false
set_option relaxedAutoImplicit false

namespace EdgePolicy.Json.Reader

open EdgePolicy.Text (digitValue? expect? hexValue? isGap takeDigits)

/-- Drop the blanks between tokens: space, tab, line feed and carriage return. -/
def skipBlanks (cs : List Char) : List Char :=
  cs.dropWhile isGap

/-- A part of a string literal: a character, or a code unit written as four hexadecimal digits. -/
inductive Piece where
  | char (c : Char)
  | unit (n : Nat)
deriving Repr

/-- The code unit written by four hexadecimal digits. -/
def unitOf? (a b c d : Char) : Option Nat := do
  return (((← hexValue? a) * 16 + (← hexValue? b)) * 16 + (← hexValue? c)) * 16 + (← hexValue? d)

def escaped? : Char → Option Char
  | '"' => some '"'
  | '\\' => some '\\'
  | '/' => some '/'
  | 'b' => some '\x08'
  | 'f' => some '\x0c'
  | 'n' => some '\n'
  | 'r' => some '\r'
  | 't' => some '\t'
  | _ => none

/-- Read the rest of a string literal, up to and with its closing quote. -/
def pieces? : List Char → Option (List Piece × List Char)
  | '"' :: rest => some ([], rest)
  | '\\' :: 'u' :: a :: b :: c :: d :: rest => do
    let unit ← unitOf? a b c d
    let (pieces, rest) ← pieces? rest
    return (.unit unit :: pieces, rest)
  | '\\' :: e :: rest => do
    let c ← escaped? e
    let (pieces, rest) ← pieces? rest
    return (.char c :: pieces, rest)
  | c :: rest => do
    if c.toNat < 0x20 then none
    let (pieces, rest) ← pieces? rest
    return (.char c :: pieces, rest)
  | [] => none

/-- A code unit in the first half of a pair. -/
def isHigh (n : Nat) : Bool := 0xd800 ≤ n && n ≤ 0xdbff

/-- A code unit in the second half of a pair. -/
def isLow (n : Nat) : Bool := 0xdc00 ≤ n && n ≤ 0xdfff

/-- Join the pieces of a string literal; none when a surrogate stands alone. -/
def join? : List Piece → Option (List Char)
  | [] => some []
  | .char c :: rest => (join? rest).map (c :: ·)
  | .unit high :: .unit low :: rest =>
    if isHigh high && isLow low then
      (join? rest).map (Char.ofNat (0x10000 + (high - 0xd800) * 0x400 + (low - 0xdc00)) :: ·)
    else if isHigh high || isLow high then none
    else (join? (.unit low :: rest)).map (Char.ofNat high :: ·)
  | .unit n :: rest =>
    if isHigh n || isLow n then none else (join? rest).map (Char.ofNat n :: ·)

/-- Read a string literal after its opening quote. -/
def text? (cs : List Char) : Option (Option String × List Char) := do
  let (pieces, rest) ← pieces? cs
  return ((join? pieces).map String.ofList, rest)

def someDigits? (cs : List Char) : Option (List Nat × List Char) :=
  match takeDigits digitValue? cs with
  | ([], _) => none
  | taken => some taken

/-- The whole part: a single zero, or digits that start with another one. -/
def whole? (cs : List Char) : Option (List Nat × List Char) := do
  let (ds, rest) ← someDigits? cs
  match ds with
  | 0 :: _ :: _ => none
  | _ => return (ds, rest)

/-- The fraction part, empty without a point. -/
def fraction? : List Char → Option (List Nat × List Char)
  | '.' :: cs => someDigits? cs
  | cs => some ([], cs)

def exponentDigits? : List Char → Option (ExponentPart × List Char)
  | '+' :: cs => (someDigits? cs).map fun taken => (⟨false, taken.1⟩, taken.2)
  | '-' :: cs => (someDigits? cs).map fun taken => (⟨true, taken.1⟩, taken.2)
  | cs => (someDigits? cs).map fun taken => (⟨false, taken.1⟩, taken.2)

/-- The exponent part, absent without its mark. -/
def exponent? : List Char → Option (Option ExponentPart × List Char)
  | 'e' :: cs => (exponentDigits? cs).map fun taken => (some taken.1, taken.2)
  | 'E' :: cs => (exponentDigits? cs).map fun taken => (some taken.1, taken.2)
  | cs => some (none, cs)

def literal? (cs : List Char) : Option (Literal × List Char) := do
  let (negative, cs) := match cs with
    | '-' :: rest => (true, rest)
    | rest => (false, rest)
  let (whole, cs) ← whole? cs
  let (fraction, cs) ← fraction? cs
  let (exponent, cs) ← exponent? cs
  return (⟨negative, whole, fraction, exponent⟩, cs)

/-- Containers nested deeper than this are holes. -/
def maxDepth : Nat := 127

/-- A container at the given depth, or a hole beyond the greatest depth. -/
def atDepth (depth : Nat) (document : Document) : Document :=
  if depth < maxDepth then document else .deep

mutual

/-- Read one document at the given depth; blanks before it are skipped. -/
def document? : Nat → Nat → List Char → Option (Document × List Char)
  | 0, _, _ => none
  | fuel + 1, depth, cs =>
    match skipBlanks cs with
    | 'n' :: rest => do return (.null, ← expect? ['u', 'l', 'l'] rest)
    | 't' :: rest => do return (.bool true, ← expect? ['r', 'u', 'e'] rest)
    | 'f' :: rest => do return (.bool false, ← expect? ['a', 'l', 's', 'e'] rest)
    | '"' :: rest => do
      let (s, rest) ← text? rest
      return (.string s, rest)
    | '[' :: rest =>
      match skipBlanks rest with
      | ']' :: rest => some (atDepth depth (.array []), rest)
      | rest => do
        let (items, rest) ← items? fuel (depth + 1) rest
        return (atDepth depth (.array items), rest)
    | '\x7b' :: rest =>
      match skipBlanks rest with
      | '\x7d' :: rest => some (atDepth depth (.object []), rest)
      | rest => do
        let (members, rest) ← members? fuel (depth + 1) rest
        return (atDepth depth (.object members), rest)
    | rest => do
      let (literal, rest) ← literal? rest
      return (.number literal.value?, rest)

def items? : Nat → Nat → List Char → Option (List Document × List Char)
  | 0, _, _ => none
  | fuel + 1, depth, cs => do
    let (item, rest) ← document? fuel depth cs
    match skipBlanks rest with
    | ',' :: rest =>
      let (items, rest) ← items? fuel depth rest
      return (item :: items, rest)
    | ']' :: rest => return ([item], rest)
    | _ => none

def members? : Nat → Nat → List Char → Option (List (Option String × Document) × List Char)
  | 0, _, _ => none
  | fuel + 1, depth, cs =>
    match skipBlanks cs with
    | '"' :: rest => do
      let (name, rest) ← text? rest
      let rest ← expect? [':'] (skipBlanks rest)
      let (document, rest) ← document? fuel depth rest
      match skipBlanks rest with
      | ',' :: rest =>
        let (members, rest) ← members? fuel depth rest
        return ((name, document) :: members, rest)
      | '\x7d' :: rest => return ([(name, document)], rest)
      | _ => none
    | _ => none

end

end Reader

def Document.ofText? (s : String) : Option Document := do
  let cs := s.toList
  let (document, rest) ← Reader.document? (cs.length + 1) 0 cs
  if (Reader.skipBlanks rest).isEmpty then some document else none

def Value.ofText? (s : String) : Option Value := do
  (← Document.ofText? s).value?

end EdgePolicy.Json
