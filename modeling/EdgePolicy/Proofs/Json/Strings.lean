import EdgePolicy.Json.Reader
import EdgePolicy.Json.Writer
import EdgePolicy.Proofs.Text.Digits

/-
String literals are read back as they were written (`text?_stringText`).

A character is written as itself, behind a backslash, or as the four digits of its code unit.
`Spelled` names these three forms, and whatever is said about written characters is said once for
each of them.
-/

set_option autoImplicit false
set_option relaxedAutoImplicit false

namespace EdgePolicy.Json

open Reader (escaped? isHigh isLow join? pieces? text? Piece)
open Writer (charText hexDigit stringText)

/-- A character and a way to write it in a string. -/
inductive Spelled : Char → List Char → Prop
  | plain {c : Char} (printable : ¬ c.toNat < 0x20) (unquoted : c ≠ '"')
      (unescaped : c ≠ '\\') : Spelled c [c]
  | short {c e : Char} (stands : escaped? e = some c) (brief : e ≠ 'u') : Spelled c ['\\', e]
  | unit {c : Char} (control : c.toNat < 0x20) :
      Spelled c ['\\', 'u', '0', '0', hexDigit (c.toNat / 16), hexDigit (c.toNat % 16)]

theorem spelled_charText (c : Char) : Spelled c (charText c) := by
  unfold charText
  by_cases quote : c = '"'
  · subst quote
    exact .short rfl (by decide)
  rw [if_neg quote]
  by_cases backslash : c = '\\'
  · subst backslash
    exact .short rfl (by decide)
  rw [if_neg backslash]
  iterate 5
    split
    · next here =>
      subst here
      exact .short rfl (by decide)
  split
  · next control => exact .unit control
  · next printable => exact .plain printable quote backslash

def IsPiece (c : Char) (piece : Piece) : Prop :=
  ∀ rest, join? (piece :: rest) = (join? rest).map (c :: ·)

private theorem isPiece_unit {c : Char} (control : c.toNat < 0x20) : IsPiece c (.unit c.toNat) := by
  intro rest
  have high : isHigh c.toNat = false := by simp [isHigh]; omega
  have low : isLow c.toNat = false := by simp [isLow]; omega
  cases rest with
  | nil => simp [join?, high, low]
  | cons piece rest => cases piece <;> simp [join?, high, low]

private theorem unitOf?_hexDigits {n : Nat} (bound : n < 0x20) :
    Reader.unitOf? '0' '0' (hexDigit (n / 16)) (hexDigit (n % 16)) = some n := by
  revert n
  decide

theorem Spelled.pieces? {c : Char} {text : List Char} (spelled : Spelled c text)
    (cs : List Char) :
    ∃ piece, IsPiece c piece ∧
      Reader.pieces? (text ++ cs) = (Reader.pieces? cs).map fun read =>
        (piece :: read.1, read.2) := by
  simp only [Option.map_eq_bind]
  cases spelled with
  | plain printable unquoted unescaped =>
    refine ⟨.char c, fun _ => rfl, ?_⟩
    rw [List.singleton_append, Reader.pieces?]
    · rw [if_neg printable]
      rfl
    · exact unquoted
    all_goals simp [unescaped]
  | short stands brief =>
    refine ⟨.char c, fun _ => rfl, ?_⟩
    rw [List.cons_append, List.singleton_append, Reader.pieces?, stands]
    · rfl
    · simp [brief]
  | unit control =>
    refine ⟨.unit c.toNat, isPiece_unit control, ?_⟩
    simp only [List.cons_append, List.nil_append, Reader.pieces?, unitOf?_hexDigits control]
    rfl

private theorem text?_charTexts (cs rest : List Char) :
    text? (cs.flatMap charText ++ '"' :: rest) = some (some (String.ofList cs), rest) := by
  have read : ∃ pieces, pieces? (cs.flatMap charText ++ '"' :: rest) = some (pieces, rest) ∧
      join? pieces = some cs := by
    induction cs with
    | nil => exact ⟨[], rfl, rfl⟩
    | cons c cs ih =>
      obtain ⟨pieces, read, joined⟩ := ih
      obtain ⟨piece, isPiece, first⟩ :=
        (spelled_charText c).pieces? (cs.flatMap charText ++ '"' :: rest)
      refine ⟨piece :: pieces, ?_, ?_⟩
      · rw [List.flatMap_cons, List.append_assoc, first, read]
        rfl
      · rw [isPiece, joined]
        rfl
  obtain ⟨pieces, read, joined⟩ := read
  unfold text?
  rw [read]
  simp only [Option.bind_eq_bind, Option.bind_some, joined, Option.map_some, Option.pure_def]

/-- A written string is read back, whatever follows it. -/
theorem text?_stringText (s : String) (rest : List Char) :
    ∃ literal, stringText s ++ rest = '"' :: literal ∧ text? literal = some (some s, rest) := by
  refine ⟨s.toList.flatMap charText ++ '"' :: rest, by simp [stringText], ?_⟩
  rw [text?_charTexts, String.ofList_toList]

end EdgePolicy.Json
