import EdgePolicy.Expression.Clause
import EdgePolicy.Text.Scan

/-
Recognising clauses.

Every form of clause has a shape that reads a whole clause or nothing.  Shapes are tried in the
order of one list and the first that reads the clause decides.
-/

set_option autoImplicit false
set_option relaxedAutoImplicit false

namespace EdgePolicy.Expression

open Text (expect? isBlank isGap trimChars)

def gaps? : List Char → Option (List Char)
  | c :: rest => if isGap c then some (rest.dropWhile isGap) else none
  | [] => none

def skipGaps (cs : List Char) : List Char := cs.dropWhile isGap

def word? (word : String) (cs : List Char) : Option (List Char) :=
  expect? word.toList cs

/-- The text after a word with gaps on both sides. -/
def keyword? (word : String) (cs : List Char) : Option (List Char) := do
  gaps? (← word? word (← gaps? cs))

def ending? {α : Type} (value : α) (rest : List Char) : Option α :=
  if rest.isEmpty then some value else none

/-- The operator written by one of some words with gaps on both sides. -/
def operator? : List Operator → List Char → Option (Operator × List Char)
  | [], _ => none
  | operator :: others, cs =>
    match keyword? operator.token cs with
    | some rest => some (operator, rest)
    | none => operator? others cs

def negation (cs : List Char) : Bool × List Char :=
  match (word? "not" cs).bind gaps? with
  | some rest => (true, rest)
  | none => (false, cs)

/-- One or more items with gaps between them; the fuel bounds their number. -/
def items? {α : Type} (item? : List Char → Option (α × List Char)) :
    Nat → List Char → Option (List α × List Char)
  | 0, _ => none
  | fuel + 1, cs => do
    let (item, rest) ← item? cs
    match (gaps? rest).bind (items? item? fuel) with
    | some (items, rest) => return (item :: items, rest)
    | none => return ([item], rest)

def set? (item? : List Char → Option (List Char × List Char)) (cs : List Char) :
    Option (List String × List Char) := do
  let cs ← expect? ['\x7b'] cs
  let (items, cs) ← items? item? (cs.length + 1) (skipGaps cs)
  let cs ← expect? ['\x7d'] (skipGaps cs)
  return (items.map String.ofList, cs)

/-- A character of a set item without quotes. -/
def isBareChar (c : Char) : Bool :=
  !(isBlank c || c == '\x7b' || c == '\x7d' || c == '"')

def many? (p : Char → Bool) (cs : List Char) : Option (List Char × List Char) :=
  if (cs.takeWhile p).isEmpty then none else some (cs.takeWhile p, cs.dropWhile p)

def quotedSet? (cs : List Char) : Option (List String × List Char) :=
  set? readQuoted? cs

def bareSet? (cs : List Char) : Option (List String × List Char) :=
  set? (many? isBareChar) cs

def text? (cs : List Char) : Option (String × List Char) :=
  (readQuoted? cs).map fun read => (String.ofList read.1, read.2)

/-- The field of a path after `http.`: two paths are catalogued, the others generic. -/
def fieldOfPath (path : String) : Field :=
  if path = "request.full_uri" then .fullUri
  else if path = "request.uri.path.extension" then .fileExtension
  else .generic path

def httpField? (cs : List Char) : Option (Field × List Char) := do
  let (path, rest) ← many? isPathChar (← word? "http." cs)
  return (fieldOfPath (String.ofList path), rest)

def header? (cs : List Char) : Option (String × List Char) := do
  let (name, rest) ← text? (← word? "http.request.headers[" cs)
  return (name, ← word? "][*]" rest)

/-- A comparison with a set of quoted literals, possibly negated, on a fixed path. -/
def quotedMembership? (field : Field) (path : List Char) (cs : List Char) : Option Condition := do
  let (negated, cs) := negation cs
  let (items, rest) ← quotedSet? (← keyword? "in" (← expect? path cs))
  ending? (.of field (if negated then .notWithin else .within) (.many items)) rest

/-- An equality or inequality with a quoted literal on a fixed path. -/
def quotedEquality? (field : Field) (path : List Char) (cs : List Char) : Option Condition := do
  let (operator, rest) ← operator? [.eq, .ne] (← expect? path cs)
  let (value, rest) ← text? rest
  ending? (.of field operator (.one value)) rest

def under (operator : Operator) (condition : Condition) : Option Condition :=
  if condition.operator = operator then some condition else none

def headerNotContains? (cs : List Char) : Option Condition := do
  let cs ← word? "any(" (← gaps? (← word? "not" cs))
  let (name, cs) ← header? cs
  let (value, cs) ← text? (← keyword? "contains" cs)
  ending? (.onHeader name .notContains value) (← word? ")" cs)

/-- Shape `any(header eq "value")` or `any(header contains "value")`. -/
def headerAny? (cs : List Char) : Option Condition := do
  let (name, cs) ← header? (← word? "any(" cs)
  let (operator, cs) ← operator? [.eq, .contains] cs
  let (value, cs) ← text? cs
  ending? (.onHeader name operator value) (← word? ")" cs)

def headerAllNe? (cs : List Char) : Option Condition := do
  let (name, cs) ← header? (← word? "all(" cs)
  let (value, cs) ← text? (← keyword? "ne" cs)
  ending? (.onHeader name .ne value) (← word? ")" cs)

def extensionNotIn? (cs : List Char) : Option Condition :=
  (quotedMembership? .fileExtension extensionPath cs).bind (under .notWithin)

def extensionIn? (cs : List Char) : Option Condition :=
  (quotedMembership? .fileExtension extensionPath cs).bind (under .within)

/-- Shape `extension eq "value"` or `extension ne "value"`. -/
def extensionCompare? (cs : List Char) : Option Condition :=
  quotedEquality? .fileExtension extensionPath cs

def notContains? (cs : List Char) : Option Condition := do
  let (field, cs) ← httpField? (← gaps? (← word? "not" cs))
  let (value, cs) ← text? (← keyword? "contains" cs)
  ending? (.of field .notContains (.one value)) cs

def wildcard? (cs : List Char) : Option Condition := do
  let (field, cs) ← httpField? cs
  let (value, cs) ← readRaw? (← keyword? "wildcard" cs)
  ending? (.of field .wildcard (.one (String.ofList value))) cs

/-- Shape `field eq "value"`, `field ne "value"` or `field contains "value"`. -/
def compare? (cs : List Char) : Option Condition := do
  let (field, cs) ← httpField? cs
  let (operator, cs) ← operator? [.eq, .ne, .contains] cs
  let (value, cs) ← text? cs
  ending? (.of field operator (.one value)) cs

/-- Shape of a string function named like its operator. -/
def function? (operator : Operator) (cs : List Char) : Option Condition := do
  let (field, cs) ← httpField? (← word? "(" (← word? operator.token cs))
  let (value, cs) ← text? (skipGaps (← word? "," cs))
  ending? (.of field operator (.one value)) (← word? ")" cs)

def startsWith? (cs : List Char) : Option Condition := function? .startsWith cs

def endsWith? (cs : List Char) : Option Condition := function? .endsWith cs

def addressIn? (cs : List Char) : Option Condition := do
  let (items, rest) ← bareSet? (← keyword? "in" (← expect? addressPath cs))
  ending? (.of .sourceAddress .within (.many items)) rest

def countryIn? (cs : List Char) : Option Condition :=
  quotedMembership? .sourceCountry countryPath cs

def knownBot? (cs : List Char) : Option Condition := do
  let (negated, cs) := negation cs
  ending? (.of .knownBot .eq (.flag !negated)) (← expect? knownBotPath cs)

def botCategoryIn? (cs : List Char) : Option Condition :=
  quotedMembership? .verifiedBotCategory botCategoryPath cs

/-- Shape `category eq "value"` or `category ne "value"`. -/
def botCategoryCompare? (cs : List Char) : Option Condition :=
  quotedEquality? .verifiedBotCategory botCategoryPath cs

/-- A form of clause: the condition a whole clause stands for, if it has that form. -/
abbrev Shape := List Char → Option Condition

def shapes : List Shape :=
  [headerNotContains?, headerAny?, headerAllNe?, extensionNotIn?, extensionIn?, extensionCompare?,
    notContains?, wildcard?, compare?, startsWith?, endsWith?, addressIn?, countryIn?, knownBot?,
    botCategoryIn?, botCategoryCompare?]

def firstMatch (shapes : List Shape) (cs : List Char) : Option Condition :=
  shapes.findSome? fun shape => shape cs

/-- Recognise a clause, blanks around it aside. -/
def condition? (cs : List Char) : Option Condition :=
  firstMatch shapes (trimChars cs)

/-- Recognise a host clause, blanks around it aside. -/
def host? (cs : List Char) : Option String := do
  let (domain, rest) ← text? (← keyword? "eq" (← word? "http.host" (trimChars cs)))
  ending? domain rest

end EdgePolicy.Expression
