import Mathlib.Data.List.TakeWhile
import EdgePolicy.Proofs.Payload.Addresses
import EdgePolicy.Proofs.Text.Digits

/-
How addresses and address blocks are written.

`Writes` says which texts stand for an address, without a reader: octets in decimal, groups in
hexadecimal, an IPv4 address for the last two groups, one gap for a run of zero groups.  The reader
finds the longest part first and never goes back, and yet it accepts exactly these texts
(`ofChars?_eq_some`): a group is not followed by a point, and a run of groups ends at a gap or at
the end of the text.  `isEntry_iff` is the acceptance law for the entries of an address list.
-/

set_option autoImplicit false
set_option relaxedAutoImplicit false

namespace EdgePolicy.Address

open Text (digits digitValue? digitsValue expect? hexValue? takeDigits Reads Spells)

/-- The octets of an IPv4 address with points between them. -/
inductive WritesOctets : List Nat → List Char → Prop
  | written {a b c d : Nat} (first : a ≤ 255) (second : b ≤ 255) (third : c ≤ 255)
      (fourth : d ≤ 255) : WritesOctets [a, b, c, d]
        (digits a ++ '.' :: (digits b ++ '.' :: (digits c ++ '.' :: digits d)))

/-- A group has one to four hexadecimal digits. -/
structure WritesGroup (group : Nat) (cs : List Char) : Prop where
  filled : cs ≠ []
  short : cs.length ≤ 4
  value : ∃ ds, Reads hexValue? cs ds ∧ digitsValue 16 ds = group

/-- Groups with colons between them, the last two perhaps written as an IPv4 address. -/
inductive WritesGroups : (embedded : Bool) → List Nat → List Char → Prop
  | group {group : Nat} {cs : List Char} (written : WritesGroup group cs) :
      WritesGroups false [group] cs
  | octets {octets : List Nat} {cs : List Char} (written : WritesOctets octets cs) :
      WritesGroups true (groupsOfOctets octets) cs
  | cons {group : Nat} {cs rest : List Char} {embedded : Bool} {groups : List Nat}
      (written : WritesGroup group cs) (more : WritesGroups embedded groups rest) :
      WritesGroups embedded (group :: groups) (cs ++ ':' :: rest)

/-- Groups on one side of a gap, perhaps none. -/
inductive WritesSide : (embedded : Bool) → List Nat → List Char → Prop
  | empty : WritesSide false [] []
  | groups {embedded : Bool} {groups : List Nat} {cs : List Char}
      (written : WritesGroups embedded groups cs) : WritesSide embedded groups cs

/-- The eight groups of an IPv6 address, in full or with a gap for at least one of them. -/
inductive WritesV6 : List Nat → List Char → Prop
  | full {embedded : Bool} {groups : List Nat} {cs : List Char}
      (written : WritesGroups embedded groups cs) (all : groups.length = 8) : WritesV6 groups cs
  | gap {embedded : Bool} {head tail : List Nat} {front back : List Char}
      (left : WritesSide false head front) (right : WritesSide embedded tail back)
      (fewer : head.length + tail.length ≤ 7) :
      WritesV6 (head ++ List.replicate (8 - head.length - tail.length) 0 ++ tail)
        (front ++ ':' :: ':' :: back)

/-- A text stands for an address. -/
def Writes : Address → List Char → Prop
  | v4 octets, cs => WritesOctets octets cs
  | v6 groups, cs => WritesV6 groups cs

/-- Where an address of the run of groups ends: at a gap or with the text. -/
inductive EndsRun : List Char → Prop
  | finished : EndsRun []
  | gap (back : List Char) : EndsRun (':' :: ':' :: back)

section Octets

variable {cs rest : List Char} {octet : Nat} {octets : List Nat}

private theorem digitValue?_of_hexValue? {c : Char} (other : hexValue? c = none) :
    digitValue? c = none := by
  cases read : digitValue? c with
  | none => rfl
  | some d =>
    have hex := hexValue?_of_digitValue? (c := c) (by rw [read]; rfl)
    rw [other] at hex
    nomatch hex

private theorem octet?_eq_some : octet? cs = some (octet, rest) ↔
    octet ≤ 255 ∧ (∀ c ∈ rest.head?, digitValue? c = none) ∧ cs = digits octet ++ rest := by
  constructor
  · intro read
    unfold octet? at read
    rcases shape : takeDigits digitValue? cs with ⟨ds, behind⟩
    obtain ⟨front, reads, stops, rfl⟩ := Text.takeDigits_eq_iff.mp shape
    rw [shape] at read
    split at read
    · nomatch read
    · nomatch read
    · next notEmpty notPadded same =>
      obtain ⟨rfl, rfl⟩ := Prod.mk.inj same
      split at read
      · next fits =>
        obtain ⟨rfl, rfl⟩ := Prod.mk.inj (Option.some.inj read)
        obtain ⟨rfl, bounds⟩ := Text.reads_digitValue?.mp reads
        have nonempty : ds ≠ [] := notEmpty
        have leading : ds.head? = some 0 → ds = [0] := by
          intro zero
          obtain ⟨more, rfl⟩ := List.head?_eq_some_iff.mp zero
          cases more with
          | nil => rfl
          | cons d more => exact absurd rfl (notPadded d more)
        exact ⟨fits.2, stops, by rw [Text.digits_digitsValue bounds nonempty leading]⟩
      · nomatch read
  · rintro ⟨fits, stops, rfl⟩
    obtain ⟨ds, written, bounds, nonempty, value⟩ := Text.spells_digits octet
    have taken : takeDigits digitValue? (digits octet ++ rest) = (ds, rest) :=
      Text.takeDigits_eq_iff.mpr ⟨_, Text.reads_digitValue?.mpr ⟨written, bounds⟩, stops, rfl⟩
    have short : ds.length ≤ 3 := by
      rw [← List.length_map (f := Nat.digitChar), ← written]
      exact (Nat.length_toDigits_le_iff (by decide) (by decide)).mpr (by omega)
    have notPadded : ∀ d more, ds ≠ 0 :: d :: more := by
      rintro d more rfl
      rcases octet.eq_zero_or_pos with rfl | positive
      · exact nomatch congrArg List.length written
      · exact Text.head_digits positive (congrArg List.head? written)
    unfold octet?
    rw [taken]
    split
    · next empty => exact absurd (Prod.mk.inj empty).1 nonempty
    · next padded => exact absurd (Prod.mk.inj padded).1 (notPadded _ _)
    · next same =>
      obtain ⟨rfl, rfl⟩ := Prod.mk.inj same
      rw [if_pos ⟨short, value.trans_le fits⟩, value]

private theorem octets?_eq_some : octets? cs = some (octets, rest) ↔
    ∃ front, WritesOctets octets front ∧ (∀ c ∈ rest.head?, digitValue? c = none) ∧
      cs = front ++ rest := by
  have point {cs rest : List Char} : expect? ['.'] cs = some rest ↔ cs = '.' :: rest :=
    ⟨Text.expect?_eq_some, fun shape => shape ▸ Text.expect?_append ['.'] rest⟩
  have stops (rest : List Char) : ∀ c ∈ ('.' :: rest).head?, digitValue? c = none := by
    intro c first
    obtain rfl := Option.some.inj first
    decide
  simp only [octets?, Option.bind_eq_bind, Option.bind_eq_some_iff, Option.pure_def,
    Option.some.injEq, Prod.mk.injEq, Prod.exists, octet?_eq_some, point]
  constructor
  · rintro ⟨a, _, ⟨first, -, rfl⟩, _, rfl, b, _, ⟨second, -, rfl⟩, _, rfl, c, _,
      ⟨third, -, rfl⟩, _, rfl, d, rest, ⟨fourth, ends, rfl⟩, rfl, rfl⟩
    refine ⟨_, .written first second third fourth, ends, ?_⟩
    simp only [List.append_assoc, List.cons_append]
  · rintro ⟨_, ⟨first, second, third, fourth⟩, ends, rfl⟩
    refine ⟨_, _, ⟨first, stops _, ?_⟩, _, rfl, _, _, ⟨second, stops _, rfl⟩, _, rfl, _, _,
      ⟨third, stops _, rfl⟩, _, rfl, _, _, ⟨fourth, ends, rfl⟩, rfl, rfl⟩
    simp only [List.append_assoc, List.cons_append]

end Octets

section Groups

variable {cs rest body : List Char} {group : Nat} {head tail : List Nat} {embedded : Bool}
  {room : Nat}

private theorem group?_eq_some : group? cs = some (group, rest) ↔
    ∃ front, WritesGroup group front ∧ (∀ c ∈ rest.head?, hexValue? c = none) ∧
      cs = front ++ rest := by
  constructor
  · intro read
    unfold group? at read
    rcases shape : takeDigits hexValue? cs with ⟨ds, behind⟩
    obtain ⟨front, reads, stops, rfl⟩ := Text.takeDigits_eq_iff.mp shape
    rw [shape] at read
    split at read
    · nomatch read
    · next notEmpty same =>
      obtain ⟨rfl, rfl⟩ := Prod.mk.inj same
      split at read
      · next short =>
        obtain ⟨rfl, rfl⟩ := Prod.mk.inj (Option.some.inj read)
        have length := List.Forall₂.length_eq reads
        refine ⟨front, ⟨?_, length.trans_le short, ds, reads, rfl⟩, stops, rfl⟩
        rintro rfl
        cases reads
        exact notEmpty rfl
      · nomatch read
  · rintro ⟨front, ⟨filled, short, ds, reads, rfl⟩, stops, rfl⟩
    have taken := Text.takeDigits_eq_iff.mpr ⟨front, reads, stops, rfl⟩
    have length := List.Forall₂.length_eq reads
    unfold group?
    rw [taken]
    split
    · next empty =>
      obtain rfl := (Prod.mk.inj empty).1
      exact absurd (List.length_eq_zero_iff.mp length) filled
    · next same =>
      obtain ⟨rfl, rfl⟩ := Prod.mk.inj same
      rw [if_pos (length.symm.trans_le short)]

private theorem octets?_of_group (written : WritesGroup group cs)
    (stops : ∀ c ∈ rest.head?, hexValue? c = none ∧ c ≠ '.') : octets? (cs ++ rest) = none := by
  -- The hexadecimal digits in front are the group, and of an IPv4 address the first octet.
  have behind {front back : List Char} (hex : ∀ c ∈ front, (hexValue? c).isSome = true)
      (stops : ∀ c ∈ back.head?, hexValue? c = none) :
      (front ++ back).dropWhile (fun c => (hexValue? c).isSome) = back := by
    rw [List.dropWhile_append_of_pos hex]
    cases back with
    | nil => rfl
    | cons c back => exact List.dropWhile_cons_of_neg (by simp [stops c rfl])
  rw [Option.eq_none_iff_forall_ne_some]
  rintro ⟨octets, last⟩ read
  obtain ⟨front, writes, -, shape⟩ := octets?_eq_some.mp read
  obtain ⟨ds, reads, -⟩ := written.value
  obtain @⟨a, b, c, d, -, -, -, -⟩ := writes
  have decimal : ∀ c ∈ digits a, (hexValue? c).isSome = true := by
    obtain ⟨ds, reads, -⟩ := Text.spells_iff_reads.mp (Text.spells_digits a)
    exact fun c member => hexValue?_of_digitValue? (reads.isSome c member)
  rw [List.append_assoc, List.cons_append] at shape
  have same := congrArg (List.dropWhile fun c => (hexValue? c).isSome) shape
  rw [behind reads.isSome fun c first => (stops c first).1,
    behind decimal (by simp; decide)] at same
  exact (stops '.' (by rw [same]; rfl)).2 rfl

theorem EndsRun.stops (ends : EndsRun rest) : ∀ c ∈ rest.head?, hexValue? c = none ∧ c ≠ '.' := by
  intro c first
  cases ends with
  | finished => exact nomatch first
  | gap back =>
    obtain rfl := Option.some.inj first
    decide

private theorem groups_of_endsRun (ends : EndsRun rest) (first : Bool) :
    groups room first rest = ([], false, rest) := by
  cases ends <;> cases first <;> rcases room with _ | _ | room <;> rfl

private theorem written_of_groups {first : Bool}
    (read : groups room first cs = (head, embedded, rest)) :
    head.length ≤ room ∧ (head = [] ∧ embedded = false ∧ cs = rest ∨
      ∃ body, WritesGroups embedded head body ∧
        cs = (if first then body else ':' :: body) ++ rest) := by
  induction room generalizing first cs head with
  | zero =>
    obtain ⟨rfl, rfl, rfl⟩ := read
    exact ⟨le_rfl, .inl ⟨rfl, rfl, rfl⟩⟩
  | succ room ih =>
    have started {here body : List Char} (shape : here = body ++ rest)
        (found : (if first then some cs else expect? [':'] cs) = some here) :
        cs = (if first then body else ':' :: body) ++ rest := by
      subst shape
      cases first with
      | true => exact Option.some.inj found
      | false =>
        have shape : cs = [':'] ++ (body ++ rest) := Text.expect?_eq_some found
        exact shape
    unfold groups at read
    dsimp only at read
    split at read
    · next octets behind found =>
      obtain ⟨rfl, rfl, rfl⟩ := read
      split at found
      · nomatch found
      · next roomy =>
        obtain ⟨here, found, taken⟩ := Option.bind_eq_some_iff.mp found
        obtain ⟨body, written, -, shape⟩ := octets?_eq_some.mp taken
        refine ⟨?_, .inr ⟨body, .octets written, started shape found⟩⟩
        cases written
        exact Nat.succ_le_succ (Nat.pos_of_ne_zero roomy)
    · split at read
      · next group behind found =>
        obtain ⟨here, opened, taken⟩ := Option.bind_eq_some_iff.mp found
        obtain ⟨front, written, -, shape⟩ := group?_eq_some.mp taken
        rcases later : groups room false behind with ⟨more, embedded', behind'⟩
        rw [later] at read
        obtain ⟨rfl, rfl, rfl⟩ := read
        obtain ⟨fits, ⟨rfl, rfl, rfl⟩ | ⟨body, others, rfl⟩⟩ := ih later
        · exact ⟨Nat.succ_le_succ fits, .inr ⟨front, .group written, started shape opened⟩⟩
        · refine ⟨Nat.succ_le_succ fits, .inr ⟨_, .cons written others, started ?_ opened⟩⟩
          rw [shape]
          exact (List.append_assoc _ _ _).symm
      · obtain ⟨rfl, rfl, rfl⟩ := read
        exact ⟨Nat.zero_le _, .inl ⟨rfl, rfl, rfl⟩⟩

theorem opening_eq (first : Bool) (cs rest : List Char) :
    (if first then some ((if first then cs else ':' :: cs) ++ rest)
      else expect? [':'] ((if first then cs else ':' :: cs) ++ rest)) = some (cs ++ rest) := by
  cases first with
  | true => rfl
  | false => exact Text.expect?_append [':'] (cs ++ rest)

private theorem groups_cons (first : Bool) {behind : List Char} (written : WritesGroup group cs)
    (stops : ∀ c ∈ behind.head?, hexValue? c = none ∧ c ≠ '.')
    (later : groups room false behind = (tail, embedded, rest)) :
    groups (room + 1) first ((if first then cs else ':' :: cs) ++ behind) =
      (group :: tail, embedded, rest) := by
  have notOctets : (if room = 0 then none else (some (cs ++ behind)).bind octets?) = none := by
    split
    · rfl
    · exact octets?_of_group written stops
  have taken := group?_eq_some.mpr ⟨cs, written, fun c first => (stops c first).1, rfl⟩
  unfold groups
  dsimp only
  rw [opening_eq, notOctets]
  simp only [Option.bind_some, taken, later]

private theorem groups_of_written (room : Nat) (first : Bool)
    (written : WritesGroups embedded head body) (fits : head.length ≤ room) (ends : EndsRun rest) :
    groups room first ((if first then body else ':' :: body) ++ rest) = (head, embedded, rest) := by
  induction written generalizing room first with
  | group written =>
    obtain ⟨room, rfl⟩ := Nat.exists_eq_succ_of_ne_zero (Nat.ne_of_gt fits)
    exact groups_cons first written ends.stops (groups_of_endsRun ends false)
  | @octets octets cs written =>
    have two : (groupsOfOctets octets).length = 2 := by cases written; rfl
    obtain ⟨room, rfl⟩ := Nat.exists_eq_add_of_le (two.symm.trans_le fits)
    have taken := octets?_eq_some.mpr ⟨cs, written, fun c first =>
      digitValue?_of_hexValue? (ends.stops c first).1, rfl⟩
    have closing : (if 1 + room = 0 then none else (some (cs ++ rest)).bind octets?) =
        some (octets, rest) := by
      rw [if_neg (by omega)]
      exact taken
    rw [Nat.add_comm 2, groups]
    dsimp only
    rw [opening_eq, Nat.add_comm room, closing]
  | @cons group cs others embedded tail written more ih =>
    obtain ⟨room, rfl⟩ := Nat.exists_eq_succ_of_ne_zero (Nat.ne_of_gt (Nat.zero_lt_of_lt fits))
    have stops : ∀ c ∈ (':' :: (others ++ rest)).head?, hexValue? c = none ∧ c ≠ '.' := by
      intro c first
      obtain rfl := Option.some.inj first
      decide
    have later : groups room false (':' :: (others ++ rest)) = (tail, embedded, rest) :=
      ih room false (Nat.le_of_succ_le_succ fits)
    have whole : (if first then cs ++ ':' :: others else ':' :: (cs ++ ':' :: others)) ++ rest =
        (if first then cs else ':' :: cs) ++ ':' :: (others ++ rest) := by
      cases first <;> simp
    rw [whole]
    exact groups_cons first written stops later

end Groups

section Address

variable {cs front back : List Char} {head tail : List Nat} {embedded : Bool} {address : Address}

private theorem groups_of_side (room : Nat) {rest : List Char}
    (written : WritesSide embedded head front) (fits : head.length ≤ room) (ends : EndsRun rest) :
    groups room true (front ++ rest) = (head, embedded, rest) := by
  cases written with
  | empty => exact groups_of_endsRun ends true
  | groups written => exact groups_of_written room true written fits ends

private theorem side_of_groups {room : Nat} {rest : List Char}
    (read : groups room true cs = (head, embedded, rest)) :
    head.length ≤ room ∧ ∃ front, WritesSide embedded head front ∧ cs = front ++ rest := by
  obtain ⟨fits, ⟨rfl, rfl, rfl⟩ | ⟨body, written, rfl⟩⟩ := written_of_groups read
  · exact ⟨fits, [], .empty, rfl⟩
  · exact ⟨fits, body, .groups written, rfl⟩

private theorem v6?_eq_some : v6? cs = some (address, []) ↔
    ∃ groups, address = v6 groups ∧ WritesV6 groups cs := by
  constructor
  · intro read
    unfold v6? at read
    rcases shape : groups 8 true cs with ⟨head, embedded, middle⟩
    obtain ⟨fits, front, left, rfl⟩ := side_of_groups shape
    rw [shape] at read
    dsimp only at read
    split at read
    · next all =>
      obtain ⟨rfl, rfl⟩ := Prod.mk.inj (Option.some.inj read)
      rw [List.append_nil]
      cases left with
      | empty => nomatch all
      | groups written => exact ⟨head, rfl, .full written all⟩
    · next notAll =>
      cases embedded with
      | true => nomatch read
      | false =>
        obtain ⟨behind, gap, read⟩ := Option.bind_eq_some_iff.mp read
        rcases shape' : groups (7 - head.length) true behind with ⟨tail, embedded, last⟩
        obtain ⟨fits', back, right, rfl⟩ := side_of_groups shape'
        rw [shape'] at read
        obtain ⟨rfl, rfl⟩ := Prod.mk.inj (Option.some.inj read)
        rw [Text.expect?_eq_some gap, List.append_nil]
        have fewer : head.length + tail.length ≤ 7 := by
          have small : head.length ≠ 8 := notAll
          omega
        exact ⟨_, rfl, .gap left right fewer⟩
  · rintro ⟨_, rfl, written⟩
    unfold v6?
    cases written with
    | full written all =>
      have read := groups_of_written 8 true written all.le .finished
      rw [if_pos rfl, List.append_nil] at read
      rw [read]
      exact if_pos all
    | @gap embedded head tail front back left right fewer =>
      have read := groups_of_side 8 left (by omega) (.gap back)
      have read' := groups_of_side (7 - head.length) right (by omega) .finished
      rw [List.append_nil] at read'
      rw [read]
      dsimp only
      rw [if_neg (by omega)]
      have opened : expect? [':', ':'] (':' :: ':' :: back) = some back :=
        Text.expect?_append [':', ':'] back
      simp only [Bool.false_eq_true, if_false, opened, Option.bind_eq_bind, Option.bind_some, read',
        Option.pure_def]

private theorem octets?_of_writesV6 (written : WritesV6 head cs) : octets? cs = none := by
  have colon (rest : List Char) : ∀ c ∈ (':' :: rest).head?, hexValue? c = none ∧ c ≠ '.' := by
    intro c first
    obtain rfl := Option.some.inj first
    decide
  cases written with
  | full written all =>
    cases written with
    | group written => nomatch all
    | octets written =>
      cases written
      nomatch all
    | cons written more => exact octets?_of_group written (colon _)
  | gap left right fewer =>
    cases left with
    | empty => rfl
    | groups written =>
      cases written with
      | group written => exact octets?_of_group written (colon _)
      | cons written more =>
        rw [List.append_assoc]
        exact octets?_of_group written (colon _)

/-- Exactly the texts that stand for an address are read as this address. -/
theorem ofChars?_eq_some : ofChars? cs = some address ↔ Writes address cs := by
  constructor
  · intro read
    unfold ofChars? at read
    split at read
    · next found =>
      obtain rfl := Option.some.inj read
      cases short : v4? cs with
      | some pair =>
        rw [short] at found
        obtain rfl := Option.some.inj found
        obtain ⟨⟨octets, rest⟩, taken, same⟩ := Option.bind_eq_some_iff.mp short
        obtain ⟨rfl, rfl⟩ := Prod.mk.inj (Option.some.inj same)
        obtain ⟨front, written, -, rfl⟩ := octets?_eq_some.mp taken
        rw [List.append_nil]
        exact written
      | none =>
        rw [short] at found
        obtain ⟨groups, rfl, written⟩ := v6?_eq_some.mp found
        exact written
    · nomatch read
  · intro written
    unfold ofChars?
    cases address with
    | v4 octets =>
      have read : octets? cs = some (octets, []) :=
        octets?_eq_some.mpr ⟨cs, written, nofun, (List.append_nil cs).symm⟩
      have short : v4? cs = some (v4 octets, []) := by
        rw [v4?, read]
        rfl
      rw [short]
      rfl
    | v6 groups =>
      have short : v4? cs = none := by
        rw [v4?, octets?_of_writesV6 written]
        rfl
      have long : v6? cs = some (v6 groups, []) := v6?_eq_some.mpr ⟨groups, rfl, written⟩
      rw [short, Option.orElse_none, long]

theorem Writes.chars (written : Writes address cs) :
    ∀ c ∈ cs, (hexValue? c).isSome = true ∨ c = '.' ∨ c = ':' := by
  obtain ⟨front, rfl, taken⟩ := ofChars?_consumes (ofChars?_eq_some.mpr written)
  rwa [List.append_nil]

private theorem Writes.slashless (written : Writes address cs) : ∀ c ∈ cs, (c != '/') = true := by
  intro c member
  rcases written.chars c member with hex | rfl | rfl
  · have notSlash : c ≠ '/' := by
      rintro rfl
      exact absurd hex (by decide)
    simpa using notSlash
  · decide
  · decide

private theorem bits_le (address : Address) : address.bits ≤ Text.maxWord8 := by
  cases address with
  | v4 => exact (by decide : 32 ≤ Text.maxWord8)
  | v6 => exact (by decide : 128 ≤ Text.maxWord8)

private theorem head_dropWhile_slash {cs rest : List Char} {c : Char}
    (behind : cs.dropWhile (· != '/') = c :: rest) : c = '/' := by
  have first := List.head?_dropWhile_not (· != '/') cs
  rw [behind] at first
  simpa using first

/-- An entry is an address, or an address, a slash and a number of bits that the address has; a plus
sign may stand in front of the number, and zeros. -/
theorem isEntry_iff (s : String) : isEntry s = true ↔
    ∃ address text, Writes address text ∧ (s.toList = text ∨
      ∃ sign count bits, (sign = [] ∨ sign = ['+']) ∧ Spells bits count ∧ bits ≤ address.bits ∧
        s.toList = text ++ '/' :: (sign ++ count)) := by
  unfold isEntry
  dsimp only
  rw [drop_length_takeWhile]
  constructor
  · have whole := List.takeWhile_append_dropWhile (p := (· != '/')) (l := s.toList)
    intro entry
    split at entry
    · next address read behind =>
      rw [behind, List.append_nil] at whole
      exact ⟨address, _, ofChars?_eq_some.mp read, .inl whole.symm⟩
    · next address slash number read behind =>
      obtain rfl := head_dropWhile_slash behind
      split at entry
      · next bits counted =>
        obtain ⟨-, sign, count, signed, spells, rfl⟩ := Text.natural?_eq_some.mp counted
        refine ⟨address, _, ofChars?_eq_some.mp read, .inr
          ⟨sign, count, bits, signed, spells, of_decide_eq_true entry, ?_⟩⟩
        rw [← behind, whole]
      · nomatch entry
    · nomatch entry
  · rintro ⟨address, text, written, rfl | ⟨sign, count, bits, signed, spells, fits, shape⟩⟩
    · rw [List.takeWhile_eq_self_iff.mpr written.slashless, ofChars?_eq_some.mpr written,
        List.dropWhile_eq_nil_iff.mpr written.slashless]
    · have counted := Text.natural?_eq_some.mpr
        ⟨fits.trans (bits_le address), sign, count, signed, spells, rfl⟩
      rw [shape, List.takeWhile_append_of_pos written.slashless,
        List.dropWhile_append_of_pos written.slashless]
      have stops : ∀ rest : List Char, ('/' :: rest).takeWhile (· != '/') = [] ∧
          ('/' :: rest).dropWhile (· != '/') = '/' :: rest := fun rest => ⟨rfl, rfl⟩
      rw [(stops _).1, (stops _).2, List.append_nil, ofChars?_eq_some.mpr written]
      dsimp only
      rw [counted]
      exact decide_eq_true fits

/-- A plus sign in front of the number of bits is accepted, although no block is written so. -/
theorem isEntry_signed : ¬ ∀ s, isEntry s = true ↔ ∃ address text, Writes address text ∧
    (s.toList = text ∨ ∃ count bits, Spells bits count ∧ bits ≤ address.bits ∧
      s.toList = text ++ '/' :: count) := by
  intro law
  obtain ⟨address, text, written, shape⟩ := (law "10.0.0.0/+8").mp (by decide +kernel)
  -- No address and no number has a plus sign.
  have noSign : '+' ∉ text := fun member => absurd (written.chars '+' member) (by decide)
  have signed : '+' ∈ "10.0.0.0/+8".toList := by decide
  rcases shape with rfl | ⟨count, bits, spells, -, shape⟩
  · exact noSign signed
  · obtain ⟨ds, reads, -⟩ := Text.spells_iff_reads.mp spells
    rw [shape] at signed
    rcases List.mem_append.mp signed with inText | behind
    · exact noSign inText
    · rcases List.mem_cons.mp behind with slash | inCount
      · exact absurd slash (by decide)
      · exact absurd (reads.isSome '+' inCount) (by decide)

end Address

end EdgePolicy.Address
