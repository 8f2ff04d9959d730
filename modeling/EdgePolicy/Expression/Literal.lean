/-
String literals of the filter-expression language.

A quoted literal escapes the quote and the backslash with a backslash; a reader keeps any other
escape as it stands.  A raw literal has no escapes and so cannot hold a quote.
`readQuoted?_quoted` states that a quoted literal reads back, whatever follows it.
-/

set_option autoImplicit false
set_option relaxedAutoImplicit false

namespace EdgePolicy.Expression

def escape : List Char → List Char
  | [] => []
  | c :: cs => if c = '"' ∨ c = '\\' then '\\' :: c :: escape cs else c :: escape cs

def quoted (value : List Char) : List Char :=
  '"' :: escape value ++ ['"']

def quote (value : String) : String :=
  String.ofList (quoted value.toList)

/-- Read the inside of a quoted literal and its closing quote. -/
def readEscaped? : List Char → Option (List Char × List Char)
  | '"' :: rest => some ([], rest)
  | '\\' :: c :: rest => do
    let (value, rest) ← readEscaped? rest
    return (if c = '"' ∨ c = '\\' then (c :: value, rest) else ('\\' :: c :: value, rest))
  | c :: rest => do
    let (value, rest) ← readEscaped? rest
    return (c :: value, rest)
  | [] => none

def readQuoted? : List Char → Option (List Char × List Char)
  | '"' :: rest => readEscaped? rest
  | _ => none

/-- Read a raw literal: everything between `r` with a quote and the next quote. -/
def readRaw? : List Char → Option (List Char × List Char)
  | 'r' :: '"' :: rest =>
    match rest.dropWhile (· != '"') with
    | _ :: after => some (rest.takeWhile (· != '"'), after)
    | [] => none
  | _ => none

theorem readEscaped?_escape (value rest : List Char) :
    readEscaped? (escape value ++ '"' :: rest) = some (value, rest) := by
  induction value with
  | nil => simp [escape, readEscaped?]
  | cons c cs ih =>
    by_cases special : c = '"' ∨ c = '\\'
    · simp [escape, special, readEscaped?, ih]
    · obtain ⟨notQuote, notBackslash⟩ := not_or.mp special
      simp only [escape, special, if_false, List.cons_append]
      rw [readEscaped?, ih]
      · rfl
      · exact notQuote
      · intro c' rest' same
        exact absurd same notBackslash

theorem readQuoted?_quoted (value rest : List Char) :
    readQuoted? (quoted value ++ rest) = some (value, rest) := by
  simp [quoted, readQuoted?, readEscaped?_escape]

end EdgePolicy.Expression
