import EdgePolicy.Json.Document

/-
Writing JSON values.

The compact form has no blanks.  The indented form puts every item and member on a line of its own,
two spaces deeper than its container, and an empty container on one line.  In strings only the
quote, the backslash and the controls below U+0020 are escaped.
-/

set_option autoImplicit false
set_option relaxedAutoImplicit false

namespace EdgePolicy.Json.Writer

def hexDigit (n : Nat) : Char := Nat.digitChar n

def charText (c : Char) : List Char :=
  if c = '"' then ['\\', '"']
  else if c = '\\' then ['\\', '\\']
  else if c = '\x08' then ['\\', 'b']
  else if c = '\t' then ['\\', 't']
  else if c = '\n' then ['\\', 'n']
  else if c = '\x0c' then ['\\', 'f']
  else if c = '\r' then ['\\', 'r']
  else if c.toNat < 0x20 then
    ['\\', 'u', '0', '0', hexDigit (c.toNat / 16), hexDigit (c.toNat % 16)]
  else [c]

def stringText (s : String) : List Char :=
  '"' :: s.toList.flatMap charText ++ ['"']

def boolText (b : Bool) : List Char :=
  if b then ['t', 'r', 'u', 'e'] else ['f', 'a', 'l', 's', 'e']

mutual

def compact : Value → List Char
  | .null => ['n', 'u', 'l', 'l']
  | .bool b => boolText b
  | .number n => n.text
  | .string s => stringText s
  | .array [] => ['[', ']']
  | .array (item :: rest) => '[' :: compact item ++ compactItems rest
  | .object [] => ['\x7b', '\x7d']
  | .object ((name, value) :: rest) =>
    '\x7b' :: stringText name ++ ':' :: compact value ++ compactMembers rest

/-- The further items of an array and its closing bracket. -/
def compactItems : List Value → List Char
  | [] => [']']
  | item :: rest => ',' :: compact item ++ compactItems rest

/-- The further members of an object and its closing brace. -/
def compactMembers : List (String × Value) → List Char
  | [] => ['\x7d']
  | (name, value) :: rest => ',' :: stringText name ++ ':' :: compact value ++ compactMembers rest

end

/-- A line break followed by the indentation of a level. -/
def newline (level : Nat) : List Char :=
  '\n' :: List.replicate (2 * level) ' '

mutual

/-- The indented form of a value that stands at the given level. -/
def indented (level : Nat) : Value → List Char
  | .null => ['n', 'u', 'l', 'l']
  | .bool b => boolText b
  | .number n => n.text
  | .string s => stringText s
  | .array [] => ['[', ']']
  | .array (item :: rest) =>
    '[' :: newline (level + 1) ++ indented (level + 1) item ++ indentedItems level rest
  | .object [] => ['\x7b', '\x7d']
  | .object ((name, value) :: rest) =>
    '\x7b' :: newline (level + 1) ++ stringText name ++ ':' :: ' ' :: indented (level + 1) value
      ++ indentedMembers level rest

/-- The further items of an array and its closing bracket. -/
def indentedItems (level : Nat) : List Value → List Char
  | [] => newline level ++ [']']
  | item :: rest =>
    ',' :: newline (level + 1) ++ indented (level + 1) item ++ indentedItems level rest

/-- The further members of an object and its closing brace. -/
def indentedMembers (level : Nat) : List (String × Value) → List Char
  | [] => newline level ++ ['\x7d']
  | (name, value) :: rest =>
    ',' :: newline (level + 1) ++ stringText name ++ ':' :: ' ' :: indented (level + 1) value
      ++ indentedMembers level rest

end

end Writer

def Value.compact (value : Value) : String := String.ofList (Writer.compact value)

def Value.indented (value : Value) : String := String.ofList (Writer.indented 0 value)

end EdgePolicy.Json
