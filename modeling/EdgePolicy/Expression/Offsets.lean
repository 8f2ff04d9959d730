import EdgePolicy.Expression.Split

/-
Splitting a text by the offsets of its bytes.

The scan of `split`, over the bytes of a text: an index moves from byte to byte and jumps over
separators, and the pieces are cut out of the text between two offsets.  Every syntax character is
one byte; a byte of any longer character is just moved over.  A cut fails at an offset inside a
character.

The depth is a signed word.  Arithmetic on it wraps around, or stops the program where the build
checks for overflow; a scan is told which of both holds.
-/

set_option autoImplicit false
set_option relaxedAutoImplicit false

namespace EdgePolicy.Expression

def byteOf (c : Char) : UInt8 := UInt8.ofNat c.toNat

def isBlankByte (b : UInt8) : Bool :=
  b == byteOf '\t' || b == byteOf '\n' || b == byteOf '\x0c' || b == byteOf '\r' || b == byteOf ' '

/-- Where the scan over bytes stands. -/
structure ByteScanner where
  literal : Option LiteralKind
  escaped : Bool
  depth : Int32
  last : Option UInt8
  beforeLast : Option UInt8
deriving DecidableEq, Repr

namespace ByteScanner

def start : ByteScanner := ⟨none, false, 0, none, none⟩

def startsToken (b : UInt8) : Bool :=
  isBlankByte b || b == byteOf '(' || b == byteOf '\x7b' || b == byteOf '[' || b == byteOf ','

/-- A quote that comes next opens a raw literal. -/
def opensRaw (scanner : ByteScanner) : Bool :=
  scanner.last == some (byteOf 'r') && (match scanner.beforeLast with
    | some b => startsToken b
    | none => true)

def remember (scanner : ByteScanner) (b : UInt8) : ByteScanner :=
  { scanner with last := some b, beforeLast := scanner.last }

def step (scanner : ByteScanner) (b : UInt8) : ByteScanner :=
  let next := scanner.remember b
  match scanner.literal with
  | some .quoted =>
    if scanner.escaped then { next with escaped := false }
    else if b = byteOf '\\' then { next with escaped := true }
    else if b = byteOf '"' then { next with literal := none }
    else next
  | some .raw => if b = byteOf '"' then { next with literal := none } else next
  | none =>
    if b = byteOf '"' then
      { next with literal := some (if scanner.opensRaw then .raw else .quoted) }
    else if b = byteOf '(' then { next with depth := scanner.depth + 1 }
    else if b = byteOf ')' then { next with depth := scanner.depth - 1 }
    else next

/-- The move over a byte counts past the greatest depth. -/
def overflows (scanner : ByteScanner) (b : UInt8) : Bool :=
  scanner.literal.isNone && b == byteOf '(' && scanner.depth == Int32.maxValue

def atTopLevel (scanner : ByteScanner) : Bool :=
  scanner.literal.isNone && scanner.depth == 0

end ByteScanner

def bytesOf (s : String) : List UInt8 := s.toUTF8.data.toList

def skipBlankBytes (bytes : List UInt8) (i : Nat) : Nat :=
  i + ((bytes.drop i).takeWhile isBlankByte).length

/-- The offset behind the separator that stands at an offset: blanks, the keyword, blanks. -/
def behindSeparator? (keyword bytes : List UInt8) (i : Nat) : Option Nat :=
  let keywordStart := skipBlankBytes bytes i
  let keywordEnd := keywordStart + keyword.length
  if bytes[i]?.any isBlankByte && (bytes.drop keywordStart).take keyword.length == keyword
      && bytes[keywordEnd]?.any isBlankByte then
    some (skipBlankBytes bytes keywordEnd)
  else none

theorem le_skipBlankBytes (bytes : List UInt8) (i : Nat) : i ≤ skipBlankBytes bytes i :=
  Nat.le_add_right _ _

theorem lt_behindSeparator? {keyword bytes : List UInt8} {i next : Nat}
    (found : behindSeparator? keyword bytes i = some next) : i < next := by
  unfold behindSeparator? at found
  dsimp only at found
  split at found
  · next here =>
    simp only [Bool.and_eq_true] at here
    -- The blank at the offset is one of those that are skipped.
    have moved : i < skipBlankBytes bytes i := by
      obtain ⟨byte, stands, blank⟩ := (Option.any_eq_true _ _).mp here.1.1
      obtain ⟨inside, rfl⟩ := List.getElem?_eq_some_iff.mp stands
      unfold skipBlankBytes
      rw [List.drop_eq_getElem_cons inside, List.takeWhile_cons_of_pos blank, List.length_cons]
      omega
    have later := le_skipBlankBytes bytes (skipBlankBytes bytes i + keyword.length)
    obtain rfl := Option.some.inj found
    omega
  · nomatch found

/-- How a scan over bytes ends early: the text cannot be split, or the program stops, as the text
would be cut inside a character or the depth overflows. -/
inductive CutFault where
  | unbalanced
  | unterminated
  | insideCharacter
  | overflow
deriving DecidableEq, Repr

/-- The part of a text between two offsets, which must stand between characters. -/
def cut (s : String) (start stop : Nat) : Except CutFault String :=
  if start ≤ stop ∧ String.Pos.Raw.isValid s ⟨start⟩ ∧ String.Pos.Raw.isValid s ⟨stop⟩ then
    .ok (String.Pos.Raw.extract s ⟨start⟩ ⟨stop⟩)
  else .error .insideCharacter

/-- The pieces of a text from the offset where the current one starts, with the scanner at a later
offset.  Every turn moves the scanner forward. -/
def cutsFrom (checked : Bool) (keyword : List UInt8) (s : String) (scanner : ByteScanner)
    (start i : Nat) : Except CutFault (List String) :=
  match _here : (bytesOf s)[i]? with
  | none =>
    if scanner.atTopLevel then do return [← cut s start (bytesOf s).length]
    else .error .unterminated
  | some b =>
    match _separated : (if scanner.atTopLevel then behindSeparator? keyword (bytesOf s) i else none)
      with
    | some next => do
      let piece ← cut s start i
      return piece :: (← cutsFrom checked keyword s scanner next next)
    | none =>
      if checked && scanner.overflows b then .error .overflow
      else if (scanner.step b).depth < 0 then .error .unbalanced
      else cutsFrom checked keyword s (scanner.step b) start (i + 1)
termination_by (bytesOf s).length - i
decreasing_by
  · have inside : i < (bytesOf s).length := (List.getElem?_eq_some_iff.mp _here).1
    have forward : i < next := by
      split at _separated
      · exact lt_behindSeparator? _separated
      · nomatch _separated
    omega
  · have inside : i < (bytesOf s).length := (List.getElem?_eq_some_iff.mp _here).1
    omega

/-- Cut a text at its top-level separators, in a build that checks for overflow or in one that does
not. -/
def cuts (checked : Bool) (keyword : List Char) (s : String) : Except CutFault (List String) :=
  cutsFrom checked (bytesOf (String.ofList keyword)) s .start 0 0

end EdgePolicy.Expression
