import EdgePolicy.Text.Digits

/-
Percent encoding.

A byte is written as a percent sign and two upper-case hexadecimal digits.  Which characters are
written so depends on the place; characters beyond ASCII always are, byte by byte.
-/

set_option autoImplicit false
set_option relaxedAutoImplicit false

namespace EdgePolicy.Text

def charBytes (c : Char) : List UInt8 := (String.singleton c).toUTF8.data.toList

def percentByte (b : UInt8) : List Char :=
  ['%', (Nat.digitChar (b.toNat / 16)).toUpper, (Nat.digitChar (b.toNat % 16)).toUpper]

/-- Write one character, by its bytes if it is beyond ASCII, a control or in a set. -/
def percentChar (set : List Char) (c : Char) : List Char :=
  if c.toNat < 0x20 || 0x7e < c.toNat || set.contains c then (charBytes c).flatMap percentByte
  else [c]

/-- Write a text with the characters of a set by their bytes. -/
def percentEncode (set : List Char) (cs : List Char) : List Char :=
  cs.flatMap (percentChar set)

/-- The bytes of a text with its escapes resolved; a percent sign without two digits stays. -/
def percentDecode : List Char → List UInt8
  | [] => []
  | '%' :: a :: b :: rest =>
    match hexValue? a, hexValue? b with
    | some high, some low => UInt8.ofNat (high * 16 + low) :: percentDecode rest
    | _, _ => charBytes '%' ++ percentDecode (a :: b :: rest)
  | c :: rest => charBytes c ++ percentDecode rest

/-- A byte that stands for itself in the query of a form. -/
def isFormSafe (b : UInt8) : Bool :=
  let c := Char.ofNat b.toNat
  c.isAlphanum || c == '*' || c == '-' || c == '.' || c == '_'

/-- A text in the query of a form: a space is a plus sign. -/
def formEncode (s : String) : List Char :=
  s.toUTF8.data.toList.flatMap fun b =>
    if isFormSafe b then [Char.ofNat b.toNat]
    else if b == 0x20 then ['+']
    else percentByte b

end EdgePolicy.Text
