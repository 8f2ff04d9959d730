import EdgePolicy.Json.Document
import EdgePolicy.Text.Blank
import EdgePolicy.Text.Scan

/-
Points in time, to the nanosecond, in coordinated universal time.

They are written with `T` and `Z` and with as few groups of three fraction digits as lose nothing.
A reader is more lenient: blanks may stand before every number and around the separators, the date
and time may be separated by a space, and the time ends with `Z`, `UTC` or an offset of hours and
minutes, which is taken off.
-/

set_option autoImplicit false
set_option relaxedAutoImplicit false

namespace EdgePolicy

open Json (Document Value)
open Text (digitValue? digitsValue expect? isBlank padded takeDigits)

/-- A date of the calendar that runs backwards without end. -/
structure Date where
  year : Int
  month : Nat
  day : Nat
deriving DecidableEq, Repr, Inhabited

namespace Date

def isLeap (year : Int) : Bool :=
  year % 4 == 0 && (year % 100 != 0 || year % 400 == 0)

def daysIn (year : Int) (month : Nat) : Nat :=
  if month = 2 then (if isLeap year then 29 else 28)
  else if month = 4 ∨ month = 6 ∨ month = 9 ∨ month = 11 then 30
  else 31

def minYear : Int := -262143

def maxYear : Int := 262142

/-- The date exists, and its year is within bounds. -/
def isValid (date : Date) : Bool :=
  minYear ≤ date.year && date.year ≤ maxYear && 1 ≤ date.month && date.month ≤ 12
    && 1 ≤ date.day && date.day ≤ daysIn date.year date.month

def next (date : Date) : Date :=
  if date.day < daysIn date.year date.month then { date with day := date.day + 1 }
  else if date.month < 12 then ⟨date.year, date.month + 1, 1⟩
  else ⟨date.year + 1, 1, 1⟩

/-- The date a number of days after the first of January 1970.  Years are counted from March, so
that a leap day is the last day of its year. -/
def ofDay (day : Int) : Date :=
  let shifted := day + 719468
  let era := shifted / 146097
  let inEra := shifted % 146097
  let yearOfEra := (inEra - inEra / 1460 + inEra / 36524 - inEra / 146096) / 365
  let inYear := inEra - (365 * yearOfEra + yearOfEra / 4 - yearOfEra / 100)
  let month := (5 * inYear + 2) / 153
  { year := yearOfEra + era * 400 + if month < 10 then 0 else 1
    month := (if month < 10 then month + 3 else month - 9).toNat
    day := (inYear - (153 * month + 2) / 5 + 1).toNat }

def previous (date : Date) : Date :=
  if 1 < date.day then { date with day := date.day - 1 }
  else if 1 < date.month then ⟨date.year, date.month - 1, daysIn date.year (date.month - 1)⟩
  else ⟨date.year - 1, 12, 31⟩

end Date

/-- A point in time.  Second 60 is a leap second. -/
structure Timestamp where
  date : Date
  hour : Nat
  minute : Nat
  second : Nat
  nanosecond : Nat
deriving DecidableEq, Repr, Inhabited

namespace Timestamp

/-- The date exists and the clock shows such a time. -/
def isValid (t : Timestamp) : Bool :=
  t.date.isValid && t.hour < 24 && t.minute < 60 && t.second ≤ 60 && t.nanosecond < 1000000000

def epoch : Timestamp := ⟨⟨1970, 1, 1⟩, 0, 0, 0, 0⟩

def ofSeconds (seconds : Int) (nanosecond : Nat) : Timestamp :=
  let second := (seconds % 86400).toNat
  ⟨.ofDay (seconds / 86400), second / 3600, second / 60 % 60, second % 60, nanosecond⟩

/-- A year: four digits, with a sign when it needs more or is negative. -/
def yearText (year : Int) : List Char :=
  if 0 ≤ year ∧ year ≤ 9999 then padded 4 year.toNat
  else (if year < 0 then '-' else '+') :: padded 4 year.natAbs

/-- The fraction of a second: nothing, or three, six or nine digits. -/
def fractionText (nanosecond : Nat) : List Char :=
  if nanosecond = 0 then []
  else if nanosecond % 1000000 = 0 then '.' :: padded 3 (nanosecond / 1000000)
  else if nanosecond % 1000 = 0 then '.' :: padded 6 (nanosecond / 1000)
  else '.' :: padded 9 nanosecond

def chars (t : Timestamp) : List Char :=
  yearText t.date.year ++ '-' :: padded 2 t.date.month ++ '-' :: padded 2 t.date.day
    ++ 'T' :: padded 2 t.hour ++ ':' :: padded 2 t.minute ++ ':' :: padded 2 t.second
    ++ fractionText t.nanosecond ++ ['Z']

def text (t : Timestamp) : String := String.ofList t.chars

def skipBlanks (cs : List Char) : List Char := cs.dropWhile isBlank

/-- Read a number of at most `width` digits, and at least one. -/
def number? (width : Nat) (cs : List Char) : Option (Nat × List Char) :=
  let (ds, _) := takeDigits digitValue? (cs.take width)
  if ds.isEmpty then none else some (digitsValue 10 ds, cs.drop ds.length)

/-- Read a number of at most two digits after blanks. -/
def field? (cs : List Char) : Option (Nat × List Char) :=
  number? 2 (skipBlanks cs)

/-- Read a year after blanks: at most four digits, or any number of them after a sign. -/
def year? (cs : List Char) : Option (Int × List Char) :=
  match skipBlanks cs with
  | '-' :: rest => (number? rest.length rest).map fun read => (-(read.1 : Int), read.2)
  | '+' :: rest => (number? rest.length rest).map fun read => ((read.1 : Int), read.2)
  | rest => (number? 4 rest).map fun read => ((read.1 : Int), read.2)

def separator? (c : Char) (cs : List Char) : Option (List Char) :=
  expect? [c] (skipBlanks cs)

/-- Read the fraction of a second; digits after the ninth are dropped. -/
def fraction? : List Char → Option (Nat × List Char)
  | '.' :: cs => do
    let (ds, rest) := takeDigits digitValue? cs
    if ds.isEmpty then none
    let kept := ds.take 9
    return (digitsValue 10 kept * Nat.pow 10 (9 - kept.length), rest)
  | cs => some (0, cs)

def skipColons (cs : List Char) : List Char :=
  cs.dropWhile fun c => c == ':' || isBlank c

def twoDigits? : List Char → Option (Nat × List Char)
  | a :: b :: rest => do return ((← digitValue? a) * 10 + (← digitValue? b), rest)
  | _ => none

def offsetMinutes? (cs : List Char) : Option (Int × List Char) := do
  let (hours, cs) ← twoDigits? cs
  let (minutes, cs) ← twoDigits? (skipColons cs)
  if 60 ≤ minutes then none
  return ((hours * 60 + minutes : Nat), cs)

/-- Read what ends the time: the offset from universal time in minutes. -/
def offset? (cs : List Char) : Option (Int × List Char) :=
  match cs with
  | 'Z' :: rest => some (0, rest)
  | 'z' :: rest => some (0, rest)
  | '+' :: rest => offsetMinutes? rest
  | '-' :: rest => (offsetMinutes? rest).map fun read => (-read.1, read.2)
  | '−' :: rest => (offsetMinutes? rest).map fun read => (-read.1, read.2)
  | u :: t :: c :: rest =>
    if (u = 'U' ∨ u = 'u') ∧ (t = 'T' ∨ t = 't') ∧ (c = 'C' ∨ c = 'c') then some (0, rest) else none
  | _ => none

/-- Take an offset of less than a day off a local time. -/
def takeOff (t : Timestamp) (offset : Int) : Timestamp :=
  let minutes : Int := t.hour * 60 + t.minute - offset
  let date := if minutes < 0 then t.date.previous
    else if 1440 ≤ minutes then t.date.next
    else t.date
  let ofDay := (minutes % 1440).toNat
  { t with date, hour := ofDay / 60, minute := ofDay % 60 }

def ofChars? (cs : List Char) : Option Timestamp := do
  let (year, cs) ← year? cs
  let (month, cs) ← field? (← separator? '-' cs)
  let (day, cs) ← field? (← separator? '-' cs)
  let cs ← match cs with
    | 'T' :: rest => some rest
    | 't' :: rest => some rest
    | ' ' :: rest => some rest
    | _ => none
  let (hour, cs) ← field? cs
  let (minute, cs) ← field? (← separator? ':' cs)
  let (second, cs) ← field? (← separator? ':' cs)
  let (nanosecond, cs) ← fraction? cs
  let (offset, cs) ← offset? (skipBlanks cs)
  let localTime : Timestamp := ⟨⟨year, month, day⟩, hour, minute, second, nanosecond⟩
  let t := localTime.takeOff offset
  if (skipBlanks cs).isEmpty ∧ offset.natAbs < 1440 ∧ localTime.isValid ∧ t.isValid then some t
  else none

def json (t : Timestamp) : Value := .string t.text

def ofJson? (document : Document) : Option Timestamp :=
  document.string?.bind fun s => ofChars? s.toList

end Timestamp

end EdgePolicy
