import EdgePolicy.Text.Digits
import EdgePolicy.Text.Scan

/-
Reading TOML documents of strings, integers and tables.

A document is a sequence of headers and assignments, one a line.  Any other kind of value is refused
along with text that is not well formed.  Every step takes at least one character, so a fuel of one
more than the length of the text is never used up.
-/

set_option autoImplicit false
set_option relaxedAutoImplicit false

namespace EdgePolicy.Toml

open Text (digitValue? digitsValue expect? hexValue?)

abbrev Key := List String

inductive Value where
  | string (value : String)
  | integer (value : Int)
  | table (entries : List (Key × Value))
deriving Repr, Inhabited

/-- A line that says something. -/
inductive Statement where
  | header (key : Key)
  | assign (key : Key) (value : Value)
deriving Repr, Inhabited

def isSpace (c : Char) : Bool := c == ' ' || c == '\t'

def skipSpaces (cs : List Char) : List Char := cs.dropWhile isSpace

def isTextChar (c : Char) : Bool :=
  c == '\t' || (0x20 ≤ c.toNat && c.toNat != 0x7f)

def lineBreak? : List Char → Option (List Char)
  | '\n' :: rest => some rest
  | '\r' :: '\n' :: rest => some rest
  | _ => none

def isBareChar (c : Char) : Bool := c.isAlphanum || c == '_' || c == '-'

/-- The character of a number of hexadecimal digits. -/
def codePoint? (count : Nat) (cs : List Char) : Option (Char × List Char) := do
  let ds ← (cs.take count).mapM hexValue?
  let n := digitsValue 16 ds
  if ds.length = count ∧ n.isValidChar then some (Char.ofNat n, cs.drop count) else none

def escape? : List Char → Option (Char × List Char)
  | 'b' :: rest => some ('\x08', rest)
  | 't' :: rest => some ('\t', rest)
  | 'n' :: rest => some ('\n', rest)
  | 'f' :: rest => some ('\x0c', rest)
  | 'r' :: rest => some ('\r', rest)
  | '"' :: rest => some ('"', rest)
  | '\\' :: rest => some ('\\', rest)
  | 'u' :: rest => codePoint? 4 rest
  | 'U' :: rest => codePoint? 8 rest
  | _ => none

/-- The rest of a string between double quotes. -/
def basic? : Nat → List Char → Option (List Char × List Char)
  | 0, _ => none
  | _ + 1, '"' :: rest => some ([], rest)
  | fuel + 1, '\\' :: rest => do
    let (c, rest) ← escape? rest
    let (cs, rest) ← basic? fuel rest
    return (c :: cs, rest)
  | fuel + 1, c :: rest => do
    if !isTextChar c then none
    let (cs, rest) ← basic? fuel rest
    return (c :: cs, rest)
  | _ + 1, [] => none

/-- The rest of a string between two marks, in which nothing is escaped. -/
def literal? (mark : Char) : List Char → Option (List Char × List Char)
  | [] => none
  | c :: rest =>
    if c == mark then some ([], rest)
    else do
      if !isTextChar c then none
      let (cs, rest) ← literal? mark rest
      return (c :: cs, rest)

def markCount (mark : Char) (cs : List Char) : Nat := (cs.takeWhile (· == mark)).length

/-- The text behind a backslash at the end of a line: blanks and line breaks are skipped. -/
def continued? (cs : List Char) : Option (List Char) := do
  let rest ← lineBreak? (skipSpaces cs)
  return rest.dropWhile fun c => isSpace c || c == '\n' || c == '\r'

/-- The rest of a string over several lines, with or without escapes.  Three marks end it, and up to
two more before them belong to it. -/
def lines? (mark : Char) : Nat → List Char → Option (List Char × List Char)
  | 0, _ => none
  | _ + 1, [] => none
  | fuel + 1, c :: rest =>
    let count := markCount mark (c :: rest)
    if 5 < count then none
    else if 3 ≤ count then some (List.replicate (count - 3) mark, (c :: rest).drop count)
    else if mark == '"' && c == '\\' then
      match continued? rest with
      | some rest => lines? mark fuel rest
      | none => do
        let (c, rest) ← escape? rest
        let (cs, rest) ← lines? mark fuel rest
        return (c :: cs, rest)
    else
      match lineBreak? (c :: rest) with
      | some rest => do
        let (cs, rest) ← lines? mark fuel rest
        return ('\n' :: cs, rest)
      | none => do
        if !isTextChar c then none
        let (cs, rest) ← lines? mark fuel rest
        return (c :: cs, rest)

/-- The rest of a string over several lines; a line break at its front does not count. -/
def block? (mark : Char) (cs : List Char) : Option (List Char × List Char) :=
  lines? mark (cs.length + 1) ((lineBreak? cs).getD cs)

def text? (cs : List Char) : Option (String × List Char) :=
  let read := match cs with
    | '"' :: '"' :: '"' :: rest => block? '"' rest
    | '"' :: rest => basic? (rest.length + 1) rest
    | '\x27' :: '\x27' :: '\x27' :: rest => block? '\x27' rest
    | '\x27' :: rest => literal? '\x27' rest
    | _ => none
  read.map fun taken => (String.ofList taken.1, taken.2)

def name? (cs : List Char) : Option (String × List Char) :=
  match cs with
  | '"' :: rest => (basic? (rest.length + 1) rest).map fun taken => (String.ofList taken.1, taken.2)
  | '\x27' :: rest => (literal? '\x27' rest).map fun taken => (String.ofList taken.1, taken.2)
  | _ =>
    let name := cs.takeWhile isBareChar
    if name.isEmpty then none else some (String.ofList name, cs.drop name.length)

/-- Read a key: names with points between them. -/
def key? : Nat → List Char → Option (Key × List Char)
  | 0, _ => none
  | fuel + 1, cs => do
    let (name, rest) ← name? cs
    match skipSpaces rest with
    | '.' :: rest =>
      let (names, rest) ← key? fuel (skipSpaces rest)
      return (name :: names, rest)
    | _ => return ([name], rest)

/-- Digits of a radix with single underscores between them. -/
def digits? (radix : Nat) : Bool → List Char → Option (List Nat × List Char)
  | _, [] => some ([], [])
  | started, c :: rest =>
    if c == '_' && started then
      match rest with
      | next :: _ =>
        if ((hexValue? next).filter (· < radix)).isSome then digits? radix false rest else none
      | [] => none
    else match (hexValue? c).filter (· < radix) with
      | some d => do
        let (ds, rest) ← digits? radix true rest
        return (d :: ds, rest)
      | none => some ([], c :: rest)

def radix? (radix : Nat) (cs : List Char) : Option (Int × List Char) := do
  let (ds, rest) ← digits? radix false cs
  if ds.isEmpty then none
  return (digitsValue radix ds, rest)

/-- A decimal number without leading zeros. -/
def decimal? (cs : List Char) : Option (Int × List Char) := do
  let (ds, rest) ← digits? 10 false cs
  match ds with
  | [] => none
  | 0 :: _ :: _ => none
  | ds => return (digitsValue 10 ds, rest)

def integer? (cs : List Char) : Option (Int × List Char) := do
  let (n, rest) ← match cs with
    | '0' :: 'x' :: rest => radix? 16 rest
    | '0' :: 'o' :: rest => radix? 8 rest
    | '0' :: 'b' :: rest => radix? 2 rest
    | '+' :: rest => decimal? rest
    | '-' :: rest => (decimal? rest).map fun taken => (-taken.1, taken.2)
    | _ => decimal? cs
  if Int64.minValue.toInt ≤ n ∧ n ≤ Int64.maxValue.toInt then some (n, rest) else none

mutual

def value? : Nat → List Char → Option (Value × List Char)
  | 0, _ => none
  | fuel + 1, cs =>
    match cs with
    | '\x7b' :: rest =>
      match skipSpaces rest with
      | '\x7d' :: rest => some (.table [], rest)
      | rest => (entries? fuel rest).map fun taken => (.table taken.1, taken.2)
    | '"' :: _ => (text? cs).map fun taken => (.string taken.1, taken.2)
    | '\x27' :: _ => (text? cs).map fun taken => (.string taken.1, taken.2)
    | _ => (integer? cs).map fun taken => (.integer taken.1, taken.2)

/-- Read the entries of a table and its closing brace. -/
def entries? : Nat → List Char → Option (List (Key × Value) × List Char)
  | 0, _ => none
  | fuel + 1, cs => do
    let (key, rest) ← key? (cs.length + 1) (skipSpaces cs)
    let rest ← expect? ['='] (skipSpaces rest)
    let (value, rest) ← value? fuel (skipSpaces rest)
    match skipSpaces rest with
    | ',' :: rest =>
      let (entries, rest) ← entries? fuel rest
      return ((key, value) :: entries, rest)
    | '\x7d' :: rest => return ([(key, value)], rest)
    | _ => none

end

def statement? (cs : List Char) : Option (Statement × List Char) :=
  match cs with
  | '[' :: rest => do
    let (key, rest) ← key? (cs.length + 1) (skipSpaces rest)
    return (.header key, ← expect? [']'] (skipSpaces rest))
  | _ => do
    let (key, rest) ← key? (cs.length + 1) cs
    let rest ← expect? ['='] (skipSpaces rest)
    let (value, rest) ← value? (cs.length + 1) (skipSpaces rest)
    return (.assign key value, rest)

/-- The text behind the rest of a line, which holds nothing but a comment. -/
def lineEnd? (cs : List Char) : Option (List Char) :=
  let rest := match skipSpaces cs with
    | '#' :: comment => comment.dropWhile isTextChar
    | other => other
  if rest.isEmpty then some [] else lineBreak? rest

def statements? : Nat → List Char → Option (List Statement)
  | 0, _ => none
  | fuel + 1, cs =>
    match skipSpaces cs with
    | [] => some []
    | start =>
      match lineEnd? start with
      | some rest => statements? fuel rest
      | none => do
        let (statement, rest) ← statement? start
        return statement :: (← statements? fuel (← lineEnd? rest))

/-- The statements of a document; a byte order mark at its front does not count. -/
def ofText? (s : String) : Option (List Statement) :=
  let cs := match s.toList with
    | '\uFEFF' :: rest => rest
    | cs => cs
  statements? (cs.length + 1) cs

end EdgePolicy.Toml
