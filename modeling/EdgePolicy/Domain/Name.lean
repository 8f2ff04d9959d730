import EdgePolicy.Domain.Direction
import EdgePolicy.Domain.Joining
import EdgePolicy.Domain.Mapping
import EdgePolicy.Text.Punycode
import EdgePolicy.Text.Scan

/-
Domain names in ASCII.

The characters of a name are mapped and composed.  A label with characters beyond ASCII is written
by Punycode behind a mark; a label that has the mark already must stand for one that mapping and
composition leave as it is.  Labels that would look like others, or that cannot be shown, have no
ASCII form.
-/

set_option autoImplicit false
set_option relaxedAutoImplicit false

namespace EdgePolicy.Domain

def punycodeMark : List Char := ['x', 'n', '-', '-']

/-- A text without characters beyond ASCII. -/
def isAscii (cs : List Char) : Bool := cs.all (·.toNat < 0x80)

def maxLabel : Nat := 1000

/-- The longest text behind the mark of a label. -/
def maxPunycode : Nat := 2000

/-- A label of a name: the text it stands for, and its ASCII form. -/
structure Label where
  text : List Char
  ascii : List Char
deriving DecidableEq, Repr

namespace Label

def isShown (text : List Char) : Bool :=
  !(text.take 1).any isMark && joinersFit [] text && (isAscii text || text.length ≤ maxLabel)

/-- The text behind the mark of a label, read by Punycode.  It is not itself one with the mark, it
has a character beyond ASCII, and neither mapping nor composition changes it. -/
def decoded? (written : List Char) : Option (List Char) := do
  if maxPunycode < written.length then none
  let text ← Text.Punycode.decode? written
  if isAscii text || !text.all isKept || normalized text != text then none
  if (Text.expect? punycodeMark text).isSome then none else some text

def ofChars? (cs : List Char) : Option Label := do
  let label ← match Text.expect? punycodeMark cs with
    | some written => if isAscii written then (decoded? written).map (⟨·, cs⟩) else none
    | none =>
      some ⟨cs, if isAscii cs then cs else punycodeMark ++ Text.Punycode.encode cs⟩
  if isShown label.text then some label else none

end Label

def toAscii? (name : List Char) : Option (List Char) := do
  let characters ← name.mapM mapped?
  let labels ← ((normalized characters.flatten).splitOn '.').mapM Label.ofChars?
  if labelsAgree (labels.map (·.text)) then
    return List.intercalate ['.'] (labels.map (·.ascii))
  else none

end EdgePolicy.Domain
