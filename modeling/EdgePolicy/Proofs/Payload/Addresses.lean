import EdgePolicy.Payload.Address
import EdgePolicy.Proofs.Expression.Written

/-
The characters of an address or an address block.

Whatever the readers of addresses take off a text are hexadecimal digits, points and colons; a block
adds a slash and a number.  So an entry of an address list has nothing to trim, and nothing in it
can be taken for a parenthesis or a keyword of an expression.
-/

set_option autoImplicit false
set_option relaxedAutoImplicit false

namespace EdgePolicy.Address

open Text (digitValue? hexValue? takeDigits expect? isBlank)

def Consumes (cs rest : List Char) : Prop :=
  ∃ front, cs = front ++ rest ∧ ∀ c ∈ front, (hexValue? c).isSome = true ∨ c = '.' ∨ c = ':'

theorem Consumes.refl (cs : List Char) : Consumes cs cs :=
  ⟨[], rfl, List.forall_mem_nil _⟩

theorem Consumes.trans {cs middle rest : List Char} (first : Consumes cs middle)
    (second : Consumes middle rest) : Consumes cs rest := by
  obtain ⟨front, rfl, taken⟩ := first
  obtain ⟨back, rfl, taken'⟩ := second
  exact ⟨front ++ back, (List.append_assoc _ _ _).symm, List.forall_mem_append.mpr ⟨taken, taken'⟩⟩

theorem hexValue?_of_digitValue? {c : Char} (digit : (digitValue? c).isSome = true) :
    (hexValue? c).isSome = true := by
  unfold digitValue? at digit
  unfold hexValue?
  split at digit
  · next range => simp [range]
  · nomatch digit

private theorem takeDigits_consumes (value? : Char → Option Nat)
    (digit : ∀ c, (value? c).isSome = true → (hexValue? c).isSome = true) (cs : List Char) :
    Consumes cs (takeDigits value? cs).2 := by
  induction cs with
  | nil => exact .refl []
  | cons c cs ih =>
    unfold takeDigits
    cases read : value? c with
    | none => exact .refl _
    | some d =>
      obtain ⟨front, shape, taken⟩ := ih
      refine ⟨c :: front, congrArg (c :: ·) shape, List.forall_mem_cons.mpr ⟨.inl ?_, taken⟩⟩
      exact digit c (by rw [read]; rfl)

private theorem expect?_consumes {start cs rest : List Char} (found : expect? start cs = some rest)
    (allowed : ∀ c ∈ start, c = '.' ∨ c = ':') : Consumes cs rest :=
  ⟨start, Text.expect?_eq_some found, fun c member => .inr (allowed c member)⟩

private theorem octet?_consumes {cs rest : List Char} {octet : Nat}
    (read : octet? cs = some (octet, rest)) : Consumes cs rest := by
  have taken := takeDigits_consumes digitValue? (fun _ => hexValue?_of_digitValue?) cs
  unfold octet? at read
  rcases shape : takeDigits digitValue? cs with ⟨ds, behind⟩
  rw [shape] at read taken
  split at read
  · nomatch read
  · nomatch read
  · next same =>
    obtain ⟨-, rfl⟩ := Prod.mk.inj same
    split at read
    · obtain ⟨-, rfl⟩ := Prod.mk.inj (Option.some.inj read)
      exact taken
    · nomatch read

private theorem group?_consumes {cs rest : List Char} {group : Nat}
    (read : group? cs = some (group, rest)) : Consumes cs rest := by
  have taken := takeDigits_consumes hexValue? (fun _ => id) cs
  unfold group? at read
  rcases shape : takeDigits hexValue? cs with ⟨ds, behind⟩
  rw [shape] at read taken
  split at read
  · nomatch read
  · next same =>
    obtain ⟨-, rfl⟩ := Prod.mk.inj same
    split at read
    · obtain ⟨-, rfl⟩ := Prod.mk.inj (Option.some.inj read)
      exact taken
    · nomatch read

private theorem point_consumes {cs rest : List Char} (found : expect? ['.'] cs = some rest) :
    Consumes cs rest :=
  expect?_consumes found (List.forall_mem_singleton.mpr (.inl rfl))

private theorem octets?_consumes {cs rest : List Char} {octets : List Nat}
    (read : octets? cs = some (octets, rest)) : Consumes cs rest := by
  simp only [octets?, Option.bind_eq_bind, Option.bind_eq_some_iff, Option.pure_def,
    Option.some.injEq, Prod.mk.injEq, Prod.exists] at read
  obtain ⟨a, cs₁, first, cs₂, point, b, cs₃, second, cs₄, point', c, cs₅, third, cs₆, point'', d,
    cs₇, fourth, -, rfl⟩ := read
  have front := (octet?_consumes first).trans (point_consumes point)
  have middle := (octet?_consumes second).trans (point_consumes point')
  have back := (octet?_consumes third).trans (point_consumes point'')
  exact ((front.trans middle).trans back).trans (octet?_consumes fourth)

private theorem groups_consumes (room : Nat) (first : Bool) (cs : List Char) :
    Consumes cs (groups room first cs).2.2 := by
  induction room generalizing first cs with
  | zero => exact .refl cs
  | succ room ih =>
    -- The colon in front of a group is part of what the group takes.
    have started : ∀ here, (if first then some cs else expect? [':'] cs) = some here →
        Consumes cs here := by
      intro here found
      split at found
      · obtain rfl := Option.some.inj found
        exact .refl _
      · exact expect?_consumes found (List.forall_mem_singleton.mpr (.inr rfl))
    unfold groups
    dsimp only
    split
    · next octets rest embedded =>
      split at embedded
      · nomatch embedded
      · obtain ⟨here, found, read⟩ := Option.bind_eq_some_iff.mp embedded
        exact (started here found).trans (octets?_consumes read)
    · split
      · next group rest read =>
        obtain ⟨here, found, read⟩ := Option.bind_eq_some_iff.mp read
        exact ((started here found).trans (group?_consumes read)).trans (ih false rest)
      · exact .refl cs

private theorem v6?_consumes {cs rest : List Char} {address : Address}
    (read : v6? cs = some (address, rest)) : Consumes cs rest := by
  have front := groups_consumes 8 true cs
  unfold v6? at read
  rcases shape : groups 8 true cs with ⟨head, embedded, middle⟩
  simp only [shape] at read front
  split at read
  · obtain ⟨-, rfl⟩ := Prod.mk.inj (Option.some.inj read)
    exact front
  · split at read
    · nomatch read
    · obtain ⟨tail, gap, read⟩ := Option.bind_eq_some_iff.mp read
      have back := groups_consumes (7 - head.length) true tail
      obtain ⟨-, rfl⟩ := Prod.mk.inj (Option.some.inj read)
      exact (front.trans (expect?_consumes gap (by simp))).trans back

theorem ofChars?_consumes {cs : List Char} {address : Address} (read : ofChars? cs = some address) :
    Consumes cs [] := by
  unfold ofChars? at read
  split at read
  · next found =>
    cases short : v4? cs with
    | none =>
      rw [short] at found
      exact v6?_consumes found
    | some pair =>
      rw [short] at found
      obtain rfl := Option.some.inj found
      obtain ⟨⟨octets, rest⟩, taken, same⟩ := Option.bind_eq_some_iff.mp short
      obtain ⟨-, rfl⟩ := Prod.mk.inj (Option.some.inj same)
      exact octets?_consumes taken
  · nomatch read

private theorem digit_of_readDigits? {value count : Nat} {cs : List Char}
    (read : Text.readDigits? value cs = some count) :
    ∀ c ∈ cs, (digitValue? c).isSome = true := by
  induction cs generalizing value with
  | nil => exact List.forall_mem_nil _
  | cons c cs ih =>
    obtain ⟨d, digit, more⟩ := Option.bind_eq_some_iff.mp read
    exact List.forall_mem_cons.mpr ⟨by rw [digit]; rfl, ih more⟩

def IsEntryChar (c : Char) : Prop :=
  (hexValue? c).isSome = true ∨ c = '.' ∨ c = ':' ∨ c = '/' ∨ c = '+'

private theorem isEntryChar_of_consumes {cs : List Char} (consumes : Consumes cs []) :
    ∀ c ∈ cs, IsEntryChar c := by
  obtain ⟨front, rfl, taken⟩ := consumes
  intro c member
  rw [List.append_nil] at member
  rcases taken c member with digit | point | colon
  · exact .inl digit
  · exact .inr (.inl point)
  · exact .inr (.inr (.inl colon))

private theorem isEntryChar_of_natural? {bound count : Nat} {cs : List Char}
    (read : Text.natural? bound (String.ofList cs) = some count) : ∀ c ∈ cs, IsEntryChar c := by
  have decimal : ∀ ds : List Char, ((Text.readDigits? 0 ds).bind fun value =>
      if value ≤ bound then some value else none) = some count → ∀ c ∈ ds, IsEntryChar c := by
    intro ds taken c member
    obtain ⟨value, digits, -⟩ := Option.bind_eq_some_iff.mp taken
    exact .inl (hexValue?_of_digitValue? (digit_of_readDigits? digits c member))
  unfold Text.natural? at read
  rw [String.toList_ofList] at read
  dsimp only at read
  split at read
  · split at read
    · nomatch read
    · exact List.forall_mem_cons.mpr ⟨.inr (.inr (.inr (.inr rfl))), decimal _ read⟩
  · split at read
    · nomatch read
    · exact decimal _ read

theorem drop_length_takeWhile (p : Char → Bool) (cs : List Char) :
    cs.drop (cs.takeWhile p).length = cs.dropWhile p :=
  calc cs.drop (cs.takeWhile p).length
      = (cs.takeWhile p ++ cs.dropWhile p).drop (cs.takeWhile p).length := by
        rw [List.takeWhile_append_dropWhile]
    _ = cs.dropWhile p := List.drop_left

theorem isEntryChar_of_isEntry {s : String} (entry : isEntry s = true) :
    s.toList ≠ [] ∧ ∀ c ∈ s.toList, IsEntryChar c := by
  have whole := List.takeWhile_append_dropWhile (p := (· != '/')) (l := s.toList)
  have rest := drop_length_takeWhile (· != '/') s.toList
  unfold isEntry at entry
  dsimp only at entry
  rw [rest] at entry
  refine ⟨fun empty => ?_, ?_⟩
  · rw [empty] at entry
    exact nomatch entry
  · rw [← whole]
    split at entry
    · next address read behind =>
      rw [behind, List.append_nil]
      exact isEntryChar_of_consumes (ofChars?_consumes read)
    · next address slash count read behind =>
      have isSlash : slash = '/' := by
        have first := List.head?_dropWhile_not (· != '/') s.toList
        rw [behind] at first
        simpa using first
      split at entry
      · next bits number =>
        rw [behind]
        refine List.forall_mem_append.mpr
          ⟨isEntryChar_of_consumes (ofChars?_consumes read), List.forall_mem_cons.mpr
            ⟨.inr (.inr (.inr (.inl isSlash))), isEntryChar_of_natural? number⟩⟩
      · nomatch entry
    · nomatch entry

private theorem toNat_of_range {low high c : Char} (range : low ≤ c ∧ c ≤ high) :
    low.toNat ≤ c.toNat ∧ c.toNat ≤ high.toNat :=
  ⟨UInt32.le_iff_toNat_le.mp range.1, UInt32.le_iff_toNat_le.mp range.2⟩

theorem IsEntryChar.bounds {c : Char} (entry : IsEntryChar c) : 43 ≤ c.toNat ∧ c.toNat ≤ 102 := by
  rcases entry with digit | rfl | rfl | rfl | rfl
  · have marks : '0'.toNat = 48 ∧ '9'.toNat = 57 ∧ 'a'.toNat = 97 ∧ 'f'.toNat = 102 ∧
        'A'.toNat = 65 ∧ 'F'.toNat = 70 := by
      decide
    unfold hexValue? at digit
    split at digit
    · next range =>
      have bounds := toNat_of_range range
      omega
    · split at digit
      · next range =>
        have bounds := toNat_of_range range
        omega
      · split at digit
        · next range =>
          have bounds := toNat_of_range range
          omega
        · nomatch digit
  all_goals decide

theorem IsEntryChar.not_blank {c : Char} (entry : IsEntryChar c) : isBlank c = false := by
  have bounds := entry.bounds
  unfold isBlank
  simp only [Bool.or_eq_false_iff, Bool.and_eq_false_iff, decide_eq_false_iff_not,
    beq_eq_false_iff_ne]
  omega

theorem trim_of_isEntry {s : String} (entry : isEntry s = true) : Text.trim s = s := by
  have solid : ∀ cs : List Char, (∀ c ∈ cs, IsEntryChar c) → cs.dropWhile isBlank = cs := by
    intro cs chars
    cases cs with
    | nil => rfl
    | cons c cs =>
      exact List.dropWhile_cons_of_neg (by simp [(chars c List.mem_cons_self).not_blank])
  have chars := (isEntryChar_of_isEntry entry).2
  unfold Text.trim Text.trimChars
  rw [solid _ chars, solid _ fun c member => chars c (List.mem_reverse.mp member),
    List.reverse_reverse, String.ofList_toList]

theorem isTame_of_isEntry {s : String} (entry : isEntry s = true) : Expression.IsTame s := by
  have chars := (isEntryChar_of_isEntry entry).2
  have absent : ∀ c : Char, ¬ (43 ≤ c.toNat ∧ c.toNat ≤ 102) → c ∉ s.toList :=
    fun c outside member => outside (chars c member).bounds
  refine ⟨absent '(' (by decide), absent ')' (by decide), ?_, ?_⟩
  · rintro rfl
    exact absent 'n' (by decide) (by decide)
  · rintro rfl
    exact absent 'o' (by decide) (by decide)

end EdgePolicy.Address
