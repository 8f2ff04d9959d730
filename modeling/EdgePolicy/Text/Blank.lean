/-
Blank characters and trimming.

Three classes of blank characters occur in filter expressions and payloads: the white space of
Unicode, which trimming removes; the ASCII white space that separates the keywords of an
expression; and the narrower set allowed between the parts of one clause.  `isBlank_of_isAsciiBlank`
and `isAsciiBlank_of_isGap` nest the classes.
-/

set_option autoImplicit false
set_option relaxedAutoImplicit false

namespace EdgePolicy.Text

def isBlank (c : Char) : Bool :=
  let n := c.toNat
  (0x09 ≤ n && n ≤ 0x0d) || n == 0x20 || n == 0x85 || n == 0xa0 || n == 0x1680
    || (0x2000 ≤ n && n ≤ 0x200a) || n == 0x2028 || n == 0x2029 || n == 0x202f
    || n == 0x205f || n == 0x3000

/-- ASCII white space: tab, line feed, form feed, carriage return and space. -/
def isAsciiBlank (c : Char) : Bool :=
  c == '\t' || c == '\n' || c == '\x0c' || c == '\r' || c == ' '

/-- White space allowed inside a clause: tab, line feed, carriage return and space. -/
def isGap (c : Char) : Bool :=
  c == '\t' || c == '\n' || c == '\r' || c == ' '

def trimChars (cs : List Char) : List Char :=
  ((cs.dropWhile isBlank).reverse.dropWhile isBlank).reverse

/-- Drop the blank characters at both ends of a text. -/
def trim (s : String) : String :=
  String.ofList (trimChars s.toList)

/-- A text without any character that trimming would keep. -/
def isBlankText (s : String) : Bool :=
  s.toList.all isBlank

theorem isBlank_of_isAsciiBlank {c : Char} (h : isAsciiBlank c = true) : isBlank c = true := by
  simp only [isAsciiBlank, Bool.or_eq_true, beq_iff_eq] at h
  rcases h with (((rfl | rfl) | rfl) | rfl) | rfl <;> decide

theorem isAsciiBlank_of_isGap {c : Char} (h : isGap c = true) : isAsciiBlank c = true := by
  simp only [isGap, Bool.or_eq_true, beq_iff_eq] at h
  rcases h with ((rfl | rfl) | rfl) | rfl <;> decide

theorem isBlank_of_isGap {c : Char} (h : isGap c = true) : isBlank c = true :=
  isBlank_of_isAsciiBlank (isAsciiBlank_of_isGap h)

end EdgePolicy.Text
