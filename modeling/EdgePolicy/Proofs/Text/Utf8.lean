import EdgePolicy.Journal.Chain

/-
The bytes of a text.

Every character starts with a byte that continues no other character.  So bytes determine their
text, and a text whose bytes end the bytes of another text ends that text (`endsWith_of_utf8`).
-/

set_option autoImplicit false
set_option relaxedAutoImplicit false

namespace EdgePolicy.Text

open String (utf8EncodeChar)

def encoded (cs : List Char) : List UInt8 := cs.flatMap utf8EncodeChar

theorem utf8_eq_encoded (s : String) : Entry.utf8 s = encoded s.toList := by
  unfold Entry.utf8
  rw [String.toUTF8_eq_toByteArray, ← String.utf8Encode_toList]
  exact List.toList_data_toByteArray

private theorem encoded_injective {cs ds : List Char} (same : encoded cs = encoded ds) :
    cs = ds := by
  have bytes : cs.utf8Encode = ds.utf8Encode := congrArg List.toByteArray same
  rw [← String.toByteArray_ofList, ← String.toByteArray_ofList, String.toByteArray_inj] at bytes
  rw [← String.toList_ofList (l := cs), bytes, String.toList_ofList]

theorem utf8_injective {s t : String} (same : Entry.utf8 s = Entry.utf8 t) : s = t := by
  rw [utf8_eq_encoded, utf8_eq_encoded] at same
  exact String.toList_inj.mp (encoded_injective same)

private theorem starts_at_front {c d : Char} {front back rest rest' : List UInt8}
    (cut : utf8EncodeChar c = front ++ back) (inside : back ≠ [])
    (starts : utf8EncodeChar d ++ rest = back ++ rest') : front = [] := by
  obtain ⟨byte, more, rfl⟩ := List.exists_cons_of_ne_nil inside
  obtain ⟨first, others, written⟩ :=
    List.exists_cons_of_ne_nil (String.utf8EncodeChar_ne_nil (c := d))
  have bound : front.length < (utf8EncodeChar c).length := by simp [cut]
  have begins : first.IsUTF8FirstByte := by
    have zero := UInt8.isUTF8FirstByte_getElem_zero_utf8EncodeChar (c := d)
    simpa only [written, List.getElem_cons_zero] using zero
  rw [written, List.cons_append, List.cons_append] at starts
  obtain ⟨rfl, -⟩ := List.cons.inj starts
  have here : (utf8EncodeChar c)[front.length].IsUTF8FirstByte := by
    simpa only [cut, List.getElem_append_right (Nat.le_refl _), Nat.sub_self,
      List.getElem_cons_zero] using begins
  exact List.length_eq_zero_iff.mp (UInt8.isUTF8FirstByte_getElem_utf8EncodeChar.mp here)

private theorem suffix_of_encoded {cs ds : List Char} {front : List UInt8}
    (same : encoded cs = front ++ encoded ds) : ∃ start, cs = start ++ ds := by
  induction cs generalizing front with
  | nil =>
    have none : encoded ds = encoded [] := (List.append_eq_nil_iff.mp same.symm).2
    exact ⟨[], (encoded_injective none).symm⟩
  | cons c rest ih =>
    have split : utf8EncodeChar c ++ encoded rest = front ++ encoded ds := same
    rcases List.append_eq_append_iff.mp split with ⟨behind, -, later⟩ | ⟨back, cut, later⟩
    · obtain ⟨start, rfl⟩ := ih later
      exact ⟨c :: start, rfl⟩
    · cases ds with
      | nil => exact ⟨c :: rest, (List.append_nil _).symm⟩
      | cons d more =>
        by_cases inside : back = []
        · subst inside
          obtain ⟨start, rfl⟩ := @ih [] later.symm
          exact ⟨c :: start, rfl⟩
        · obtain rfl := starts_at_front cut inside later
          exact ⟨[], encoded_injective same⟩

/-- A text whose bytes end the bytes of another text ends that text. -/
theorem endsWith_of_utf8 {s t : String} {front : List UInt8}
    (same : Entry.utf8 s = front ++ Entry.utf8 t) : ∃ start, s.toList = start ++ t.toList := by
  rw [utf8_eq_encoded, utf8_eq_encoded] at same
  exact suffix_of_encoded same

theorem length_encoded_of_ascii {cs : List Char} (ascii : ∀ c ∈ cs, c.toNat < 128) :
    (encoded cs).length = cs.length := by
  induction cs with
  | nil => rfl
  | cons c rest ih =>
    obtain ⟨head, tail⟩ := List.forall_mem_cons.mp ascii
    have single : c.utf8Size = 1 := by
      rw [Char.utf8Size_eq_one_iff, UInt32.le_iff_toNat_le]
      exact Nat.le_of_lt_succ head
    have split : encoded (c :: rest) = utf8EncodeChar c ++ encoded rest := rfl
    rw [split, List.length_append, String.length_utf8EncodeChar, single, ih tail,
      List.length_cons, Nat.add_comm]

end EdgePolicy.Text
