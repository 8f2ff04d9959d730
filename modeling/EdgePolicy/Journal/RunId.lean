import EdgePolicy.Json.Document
import EdgePolicy.Text.Scan

/-
Run identifiers: 128 bits, written as 32 hexadecimal digits in five groups.

A reader also accepts the digits without groups, the grouped form in braces, and the grouped form
as a `urn:uuid:` name; digits may be in either case.
-/

set_option autoImplicit false
set_option relaxedAutoImplicit false

namespace EdgePolicy

open Json (Document Value)

structure RunId where
  bits : BitVec 128
deriving DecidableEq, Repr, Inhabited

namespace RunId

def digits (run : RunId) : List Nat :=
  Text.lastDigits 16 32 run.bits.toNat

/-- The five groups of an identifier, joined by hyphens. -/
def text (run : RunId) : String :=
  let ds := run.digits.map Nat.digitChar
  String.ofList <| ['-'].intercalate
    [ds.take 8, (ds.drop 8).take 4, (ds.drop 12).take 4, (ds.drop 16).take 4, ds.drop 20]

def ofDigits? (cs : List Char) : Option RunId := do
  let ds ← cs.mapM Text.hexValue?
  if ds.length = 32 then some ⟨BitVec.ofNat 128 (Text.digitsValue 16 ds)⟩ else none

/-- Take a number of characters and, except at the end, the hyphen behind them. -/
def ungroup? : List Nat → List Char → Option (List Char)
  | [], [] => some []
  | [], _ :: _ => none
  | [size], cs => if cs.length = size then some cs else none
  | size :: sizes, cs => do
    if cs.length < size then none
    let rest ← Text.expect? ['-'] (cs.drop size)
    return cs.take size ++ (← ungroup? sizes rest)

def ofGroups? (cs : List Char) : Option RunId := do
  ofDigits? (← ungroup? [8, 4, 4, 4, 12] cs)

def ofText? (s : String) : Option RunId :=
  let cs := s.toList
  if cs.length = 32 then ofDigits? cs
  else if cs.length = 36 then ofGroups? cs
  else if cs.length = 38 then do
    let inside ← Text.expect? ['\x7b'] cs
    if inside.getLast? = some '\x7d' then ofGroups? inside.dropLast else none
  else do ofGroups? (← Text.expect? "urn:uuid:".toList cs)

def json (run : RunId) : Value := .string run.text

def ofJson? (document : Document) : Option RunId :=
  document.string?.bind ofText?

end RunId

end EdgePolicy
