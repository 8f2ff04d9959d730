import EdgePolicy.Expression.Fault
import EdgePolicy.Text.Blank
import EdgePolicy.Text.Scan

/-
Splitting a text at its top level.

A keyword between blanks separates two pieces where it stands outside string literals and
parentheses.  The scanner follows the text character by character: it knows whether it is inside a
quoted or a raw literal, how many parentheses are open, and the last two characters, which tell
whether an `r` begins a token.  The characters of a separator are not shown to the scanner, so after
a separator it still remembers the end of the piece before.

Open parentheses are counted in a signed word of 32 bits.  A count that would be negative is refused:
a parenthesis closes that nothing opened, or one opens where the word holds its greatest value and
wraps around.
-/

set_option autoImplicit false
set_option relaxedAutoImplicit false

namespace EdgePolicy.Expression

open Text (expect? isAsciiBlank)

/-- The literal the scanner is inside of. -/
inductive LiteralKind where
  | quoted
  | raw
deriving DecidableEq, Repr

structure Scanner where
  literal : Option LiteralKind
  escaped : Bool
  depth : Int32
  last : Option Char
  beforeLast : Option Char
  depth_nonneg : 0 ≤ depth
deriving DecidableEq, Repr

namespace Scanner

def start : Scanner := ⟨none, false, 0, none, none, by decide⟩

def startsToken (c : Char) : Bool :=
  isAsciiBlank c || c == '(' || c == '\x7b' || c == '[' || c == ','

/-- A quote that comes next opens a raw literal. -/
def opensRaw (scanner : Scanner) : Bool :=
  scanner.last == some 'r' && (match scanner.beforeLast with
    | some c => startsToken c
    | none => true)

def remember (scanner : Scanner) (c : Char) : Scanner :=
  { scanner with last := some c, beforeLast := scanner.last }

def atDepth? (scanner : Scanner) (depth : Int32) : Option Scanner :=
  if depth_nonneg : 0 ≤ depth then some { scanner with depth, depth_nonneg } else none

/-- Move over one character, unless the depth behind it is negative. -/
def step (scanner : Scanner) (c : Char) : Option Scanner :=
  let next := scanner.remember c
  match scanner.literal with
  | some .quoted =>
    if scanner.escaped then some { next with escaped := false }
    else if c = '\\' then some { next with escaped := true }
    else if c = '"' then some { next with literal := none }
    else some next
  | some .raw => if c = '"' then some { next with literal := none } else some next
  | none =>
    if c = '"' then
      some { next with literal := some (if scanner.opensRaw then .raw else .quoted) }
    else if c = '(' then next.atDepth? (scanner.depth + 1)
    else if c = ')' then next.atDepth? (scanner.depth - 1)
    else some next

def atTopLevel (scanner : Scanner) : Bool :=
  scanner.literal.isNone && scanner.depth == 0

def run (scanner : Scanner) : List Char → Option Scanner
  | [] => some scanner
  | c :: cs => (scanner.step c).bind fun next => next.run cs

end Scanner

/-- Literals and parentheses of a text are closed, and none is closed that was not opened. -/
def isBalanced (cs : List Char) : Bool :=
  match Scanner.start.run cs with
  | some scanner => scanner.atTopLevel
  | none => false

/-- The text behind a separator, for a text that begins with one: blanks, the keyword, blanks. -/
def afterSeparator? (keyword : List Char) (cs : List Char) : Option (List Char) :=
  match cs with
  | [] => none
  | c :: rest =>
    if isAsciiBlank c then
      match expect? keyword (rest.dropWhile isAsciiBlank) with
      | some (d :: after) => if isAsciiBlank d then some (after.dropWhile isAsciiBlank) else none
      | _ => none
    else none

theorem length_dropWhile_le (p : Char → Bool) (cs : List Char) :
    (cs.dropWhile p).length ≤ cs.length :=
  (List.dropWhile_suffix p).length_le

theorem length_afterSeparator? {keyword cs after : List Char}
    (h : afterSeparator? keyword cs = some after) : after.length < cs.length := by
  cases cs with
  | nil => simp [afterSeparator?] at h
  | cons c rest =>
    simp only [afterSeparator?] at h
    split at h
    · split at h
      · next d tail found =>
        split at h
        · cases h
          have taken := congrArg List.length (Text.expect?_eq_some found)
          have shorter := length_dropWhile_le isAsciiBlank rest
          have tail_le := length_dropWhile_le isAsciiBlank tail
          simp only [List.length_append, List.length_cons] at taken ⊢
          omega
        · simp at h
      · simp at h
    · simp at h

/-- Why a text cannot be split: a parenthesis closes that nothing opened, more of them are open than
can be counted, or a literal or a parenthesis is open at the end. -/
inductive SplitFault where
  | unbalanced
  | overflow
  | unterminated
deriving DecidableEq, Repr

/-- A separator stands here: the scanner is at top level and the text begins with one. -/
def separatorHere? (keyword : List Char) (scanner : Scanner) (cs : List Char) :
    Option (List Char) :=
  if scanner.atTopLevel then afterSeparator? keyword cs else none

theorem length_separatorHere? {keyword cs after : List Char} {scanner : Scanner}
    (h : separatorHere? keyword scanner cs = some after) : after.length < cs.length := by
  unfold separatorHere? at h
  split at h
  · exact length_afterSeparator? h
  · simp at h

/-- Put a character in front of the first piece. -/
def consPiece (c : Char) : List (List Char) → List (List Char)
  | [] => [[c]]
  | piece :: pieces => (c :: piece) :: pieces

/-- The pieces of a text that the scanner has reached, at least one. -/
def piecesFrom (keyword : List Char) (scanner : Scanner) (cs : List Char) :
    Except SplitFault (List (List Char)) :=
  match _separated : separatorHere? keyword scanner cs with
  | some after => do return [] :: (← piecesFrom keyword scanner after)
  | none =>
    match cs with
    | [] => if scanner.atTopLevel then .ok [[]] else .error .unterminated
    | c :: rest =>
      match scanner.step c with
      | none => .error (if c = '(' then .overflow else .unbalanced)
      | some next => do return consPiece c (← piecesFrom keyword next rest)
termination_by cs.length
decreasing_by
  · exact length_separatorHere? _separated
  · simp

/-- Split a text at its top-level separators.  A depth that wraps around counts as unbalanced. -/
def split (keyword : List Char) (cs : List Char) : Except ExpressionFault (List (List Char)) :=
  match piecesFrom keyword Scanner.start cs with
  | .ok pieces => .ok pieces
  | .error .unbalanced | .error .overflow => .error (.unbalanced (String.ofList cs))
  | .error .unterminated => .error (.unterminated (String.ofList cs))

def orWord : List Char := ['o', 'r']

/-- The keyword between the clauses of a group. -/
def andWord : List Char := ['a', 'n', 'd']

end EdgePolicy.Expression
