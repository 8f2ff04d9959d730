import Mathlib
import EdgePolicy.Expression.Offsets
import EdgePolicy.Proofs.Expression.Joined
import EdgePolicy.Proofs.Text.Utf8

/-
A text is cut where it is split.

The scan over bytes stands where the scan over characters does (`Tracks`): an ASCII character is one
byte, and the bytes of any other character are neither blank nor syntax.  So every piece is cut
between characters and is the piece that `split` gives (`cutsFrom_encoded`), and the pieces and the
separators between them make up the text (`joined_of_piecesFrom`).  `cuts_eq` is both.

The two kinds of builds differ only where more parentheses are open than the depth can count, which
takes a text of more than two billion of them (`deepest_lt_count`, `cuts_overflow`).
-/

set_option autoImplicit false
set_option relaxedAutoImplicit false

namespace EdgePolicy.Expression

open String (utf8EncodeChar utf8Len)
open Text (encoded expect? isAsciiBlank)

def IsAscii (c : Char) : Prop := c.toNat < 128

instance (c : Char) : Decidable (IsAscii c) := inferInstanceAs (Decidable (c.toNat < 128))

/-- A byte of a character that is written as several. -/
def IsHigh (b : UInt8) : Prop := 128 ≤ b.toNat

section Bytes

variable {c d : Char} {b : UInt8} {cs ds : List Char}

private theorem toNat_byteOf (ascii : IsAscii c) : (byteOf c).toNat = c.toNat := by
  unfold IsAscii at ascii
  unfold byteOf
  rw [UInt8.toNat_ofNat']
  omega

private theorem utf8EncodeChar_of_ascii (ascii : IsAscii c) : utf8EncodeChar c = [byteOf c] := by
  have small : c.val.toNat ≤ 127 := Nat.le_of_lt_succ ascii
  unfold utf8EncodeChar
  exact if_pos small

private theorem isHigh_of_mem (long : ¬ IsAscii c) (member : b ∈ utf8EncodeChar c) : IsHigh b := by
  have large : ¬ c.val.toNat ≤ 127 := fun small => long (Nat.lt_succ_of_le small)
  have high : ∀ m n k : Nat, 0 < m → 128 ≤ k → m + k ≤ 256 → IsHigh (UInt8.ofNat (n % m + k)) := by
    intro m n k positive least fits
    have bound := Nat.mod_lt n positive
    unfold IsHigh
    rw [UInt8.toNat_ofNat']
    omega
  unfold utf8EncodeChar at member
  dsimp only at member
  rw [if_neg large] at member
  split at member
  · simp only [List.mem_cons, List.not_mem_nil, or_false] at member
    rcases member with rfl | rfl <;> exact high _ _ _ (by decide) (by decide) (by decide)
  · split at member
    · simp only [List.mem_cons, List.not_mem_nil, or_false] at member
      rcases member with rfl | rfl | rfl <;> exact high _ _ _ (by decide) (by decide) (by decide)
    · simp only [List.mem_cons, List.not_mem_nil, or_false] at member
      rcases member with rfl | rfl | rfl | rfl <;>
        exact high _ _ _ (by decide) (by decide) (by decide)

private theorem byteOf_inj (ascii : IsAscii c) (ascii' : IsAscii d) :
    byteOf c = byteOf d ↔ c = d := by
  refine ⟨fun same => ?_, congrArg byteOf⟩
  have numbers := congrArg UInt8.toNat same
  rw [toNat_byteOf ascii, toNat_byteOf ascii'] at numbers
  exact Char.toNat_inj.mp numbers

private theorem IsHigh.ne_byteOf (high : IsHigh b) (ascii : IsAscii d) : b ≠ byteOf d := by
  rintro rfl
  unfold IsHigh at high
  unfold IsAscii at ascii
  rw [toNat_byteOf ascii] at high
  omega

private theorem isBlankByte_byteOf (ascii : IsAscii c) : isBlankByte
    (byteOf c) = isAsciiBlank c := by
  have same : ∀ d, IsAscii d → (byteOf c == byteOf d) = (c == d) := fun d ascii' => by
    rw [Bool.eq_iff_iff, beq_iff_eq, beq_iff_eq, byteOf_inj ascii ascii']
  unfold isBlankByte isAsciiBlank
  rw [same _ (by decide), same _ (by decide), same _ (by decide), same _ (by decide),
    same _ (by decide)]

theorem IsHigh.not_blank (high : IsHigh b) : isBlankByte b = false := by
  unfold isBlankByte
  simp [high.ne_byteOf (d := '\t') (by decide), high.ne_byteOf (d := '\n') (by decide),
    high.ne_byteOf (d := '\x0c') (by decide), high.ne_byteOf (d := '\r') (by decide),
    high.ne_byteOf (d := ' ') (by decide)]

private theorem isAscii_of_isAsciiBlank (blank : isAsciiBlank c = true) : IsAscii c := by
  simp only [isAsciiBlank, Bool.or_eq_true, beq_iff_eq] at blank
  rcases blank with (((rfl | rfl) | rfl) | rfl) | rfl <;> decide

private theorem isAscii_of_isAlpha (letter : c.isAlpha = true) : IsAscii c := by
  unfold IsAscii
  simp only [Char.isAlpha, Char.isUpper, Char.isLower, Bool.or_eq_true, Bool.and_eq_true,
    decide_eq_true_eq, ge_iff_le, UInt32.le_iff_toNat_le] at letter
  have value : c.toNat = c.val.toNat := rfl
  have marks : 'Z'.val.toNat = 90 ∧ 'z'.val.toNat = 122 := by decide
  omega

private theorem encoded_append (cs ds : List Char) : encoded
    (cs ++ ds) = encoded cs ++ encoded ds :=
  List.flatMap_append

private theorem encoded_cons (c : Char) (cs : List Char) :
    encoded (c :: cs) = utf8EncodeChar c ++ encoded cs :=
  List.flatMap_cons

private theorem encoded_cons_of_ascii (ascii : IsAscii c) (cs : List Char) :
    encoded (c :: cs) = byteOf c :: encoded cs := by
  rw [encoded_cons, utf8EncodeChar_of_ascii ascii, List.singleton_append]

private theorem bytesOf_eq_encoded (s : String) : bytesOf s = encoded s.toList :=
  Text.utf8_eq_encoded s

private theorem encoded_cons_of_long (long : ¬ IsAscii c) (cs : List Char) :
    ∃ b bs, IsHigh b ∧ encoded (c :: cs) = b :: bs := by
  obtain ⟨b, bs, written⟩ := List.exists_cons_of_ne_nil (String.utf8EncodeChar_ne_nil (c := c))
  refine ⟨b, bs ++ encoded cs, isHigh_of_mem long ?_, ?_⟩
  · rw [written]
    exact List.mem_cons_self
  · rw [encoded_cons, written, List.cons_append]

private theorem takeWhile_encoded (cs : List Char) :
    (encoded cs).takeWhile isBlankByte = encoded (cs.takeWhile isAsciiBlank) := by
  induction cs with
  | nil => rfl
  | cons c cs ih =>
    by_cases ascii : IsAscii c
    · rw [encoded_cons_of_ascii ascii, List.takeWhile_cons, isBlankByte_byteOf ascii, ih,
        List.takeWhile_cons]
      cases isAsciiBlank c
      · rfl
      · exact (encoded_cons_of_ascii ascii _).symm
    · obtain ⟨b, bs, high, written⟩ := encoded_cons_of_long ascii cs
      have notBlank : isAsciiBlank c = false := by
        rw [← Bool.not_eq_true]
        exact fun blank => ascii (isAscii_of_isAsciiBlank blank)
      rw [written, List.takeWhile_cons_of_neg (by simp [high.not_blank]),
        List.takeWhile_cons_of_neg (by simp [notBlank])]
      rfl

private theorem prefix_encoded_iff {word : List Char} (ascii : ∀ c ∈ word, IsAscii c) :
    encoded word <+: encoded cs ↔ word <+: cs := by
  induction word generalizing cs with
  | nil => exact ⟨fun _ => List.nil_prefix, fun _ => List.nil_prefix⟩
  | cons c word ih =>
    obtain ⟨head, tail⟩ := List.forall_mem_cons.mp ascii
    rw [encoded_cons_of_ascii head]
    cases cs with
    | nil =>
      exact iff_of_false (List.cons_ne_nil _ _ ∘ List.prefix_nil.mp)
        (List.cons_ne_nil _ _ ∘ List.prefix_nil.mp)
    | cons d cs =>
      by_cases ascii' : IsAscii d
      · rw [encoded_cons_of_ascii ascii', List.cons_prefix_cons, List.cons_prefix_cons,
          byteOf_inj head ascii', ih tail]
      · obtain ⟨b, bs, high, written⟩ := encoded_cons_of_long ascii' cs
        rw [written, List.cons_prefix_cons, List.cons_prefix_cons]
        refine ⟨fun starts => absurd starts.1.symm (high.ne_byteOf head), ?_⟩
        rintro ⟨rfl, -⟩
        exact absurd head ascii'

end Bytes

def lastByte (c : Char) : UInt8 :=
  (utf8EncodeChar c).getLast String.utf8EncodeChar_ne_nil

private theorem lastByte_of_ascii {c : Char} (ascii : IsAscii c) : lastByte c = byteOf c := by
  unfold lastByte
  simp only [utf8EncodeChar_of_ascii ascii, List.getLast_singleton]

private theorem isHigh_lastByte {c : Char} (long : ¬ IsAscii c) : IsHigh (lastByte c) :=
  isHigh_of_mem long (List.getLast_mem _)

/-- The scan over bytes stands where the scan over characters does.  Behind the bytes of a character
that is not ASCII nothing depends on the byte before the last. -/
structure Tracks (bytewise : ByteScanner) (scanner : Scanner) : Prop where
  literal : bytewise.literal = scanner.literal
  escaped : bytewise.escaped = scanner.escaped
  depth : bytewise.depth = scanner.depth
  last : bytewise.last = scanner.last.map lastByte
  beforeLast : ∀ c, scanner.last = some c → IsAscii c →
    bytewise.beforeLast = scanner.beforeLast.map lastByte

section Tracking

variable {bytewise : ByteScanner} {scanner : Scanner} {c d : Char} {b : UInt8} {bs : List UInt8}

private theorem tracks_start : Tracks .start .start := ⟨rfl, rfl, rfl, rfl, nofun⟩

private theorem lastByte_beq (ascii : IsAscii d) : (lastByte c == byteOf d) = (c == d) := by
  by_cases ascii' : IsAscii c
  · rw [lastByte_of_ascii ascii', Bool.eq_iff_iff, beq_iff_eq, beq_iff_eq, byteOf_inj ascii' ascii]
  · have other : c ≠ d := fun same => ascii' (same ▸ ascii)
    rw [beq_false_of_ne ((isHigh_lastByte ascii').ne_byteOf ascii), beq_false_of_ne other]

private theorem startsToken_lastByte (c : Char) :
    ByteScanner.startsToken (lastByte c) = Scanner.startsToken c := by
  unfold ByteScanner.startsToken Scanner.startsToken isBlankByte isAsciiBlank
  simp only [lastByte_beq (d := '\t') (by decide), lastByte_beq (d := '\n') (by decide),
    lastByte_beq (d := '\x0c') (by decide), lastByte_beq (d := '\r') (by decide),
    lastByte_beq (d := ' ') (by decide), lastByte_beq (d := '(') (by decide),
    lastByte_beq (d := '\x7b') (by decide), lastByte_beq (d := '[') (by decide),
    lastByte_beq (d := ',') (by decide)]

theorem Tracks.opensRaw (tracks : Tracks bytewise scanner) :
    bytewise.opensRaw = scanner.opensRaw := by
  unfold ByteScanner.opensRaw Scanner.opensRaw
  rw [tracks.last]
  cases latest : scanner.last with
  | none => rfl
  | some c =>
    have same : (some (lastByte c) == some (byteOf 'r')) = (some c == some 'r') :=
      lastByte_beq (c := c) (by decide)
    rw [Option.map_some, same]
    by_cases isR : c = 'r'
    · subst isR
      rw [tracks.beforeLast 'r' latest (by decide)]
      cases scanner.beforeLast with
      | none => rfl
      | some d => simp only [Option.map_some, startsToken_lastByte]
    · simp [beq_false_of_ne isR]

theorem Tracks.atTopLevel (tracks : Tracks bytewise scanner) :
    bytewise.atTopLevel = scanner.atTopLevel := by
  unfold ByteScanner.atTopLevel Scanner.atTopLevel
  rw [tracks.literal, tracks.depth]

private theorem Scanner.depth_eq_maxValue :
    scanner.depth = Int32.maxValue ↔ scanner.level = deepest := by
  rw [← Int32.toInt_inj, Scanner.toInt_depth, Int32.toInt_maxValue]
  unfold deepest
  omega

theorem Tracks.overflows (tracks : Tracks bytewise scanner) (ascii : IsAscii c) :
    bytewise.overflows (byteOf c) = true ↔ c = '(' ∧ scanner.step c = none := by
  have opening : byteOf c = byteOf '(' ↔ c = '(' := byteOf_inj ascii (by decide)
  have reads : bytewise.overflows (byteOf c) = true ↔
      (scanner.literal = none ∧ c = '(') ∧ scanner.level = deepest := by
    simp only [ByteScanner.overflows, tracks.literal, tracks.depth, Bool.and_eq_true,
      Option.isNone_iff_eq_none, beq_iff_eq, opening, Scanner.depth_eq_maxValue]
  rw [reads]
  constructor
  · rintro ⟨⟨outside, rfl⟩, full⟩
    exact ⟨rfl, Scanner.step_open_eq_none.mpr ⟨outside, full⟩⟩
  · rintro ⟨rfl, stuck⟩
    obtain ⟨outside, full⟩ := Scanner.step_open_eq_none.mp stuck
    exact ⟨⟨outside, rfl⟩, full⟩

theorem Tracks.step (tracks : Tracks bytewise scanner) (ascii : IsAscii c) {next : Scanner}
    (move : scanner.step c = some next) : bytewise.step (byteOf c) =
      ⟨next.literal, next.escaped, next.depth, some (byteOf c), bytewise.last⟩ := by
  have same : ∀ d, IsAscii d → (byteOf c = byteOf d ↔ c = d) := fun d => byteOf_inj ascii
  unfold ByteScanner.step
  simp only [tracks.literal, tracks.escaped, tracks.depth, tracks.opensRaw,
    same '\\' (by decide), same '"' (by decide), same '(' (by decide), same ')' (by decide),
    ByteScanner.remember]
  rcases kind : scanner.literal with _ | (_ | _)
  · unfold Scanner.step at move
    simp only [kind] at move ⊢
    split at move
    · next quote =>
      obtain rfl := Option.some.inj move
      rw [if_pos quote]
      rfl
    · next notQuote =>
      rw [if_neg notQuote]
      split at move
      · next opening =>
        obtain ⟨_, rfl⟩ := Scanner.atDepth?_eq_some.mp move
        simp [opening, kind, Scanner.remember]
      · next notOpen =>
        rw [if_neg notOpen]
        split at move
        · next closing =>
          obtain ⟨_, rfl⟩ := Scanner.atDepth?_eq_some.mp move
          simp [closing, kind, Scanner.remember]
        · next notClose =>
          obtain rfl := Option.some.inj move
          simp [notClose, kind, Scanner.remember]
  · rw [Scanner.step_of_quoted kind] at move
    obtain rfl := Option.some.inj move
    cases pending : scanner.escaped
    · by_cases backslash : c = '\\'
      · simp [backslash, kind, Scanner.remember]
      · by_cases quote : c = '"' <;> simp [backslash, quote, kind, Scanner.remember]
    · simp [kind, Scanner.remember]
  · rw [Scanner.step_of_raw kind] at move
    obtain rfl := Option.some.inj move
    by_cases quote : c = '"' <;> simp [quote, kind, Scanner.remember]

theorem Tracks.stuck (tracks : Tracks bytewise scanner) (ascii : IsAscii c)
    (stuck : scanner.step c = none) : (bytewise.step (byteOf c)).depth < 0 := by
  have same : ∀ d, IsAscii d → (byteOf c = byteOf d ↔ c = d) := fun d => byteOf_inj ascii
  have outside := Scanner.literal_of_stuck stuck
  unfold Scanner.step at stuck
  unfold ByteScanner.step
  simp only [tracks.literal, tracks.depth, outside, same '"' (by decide), same '(' (by decide),
    same ')' (by decide)] at stuck ⊢
  split at stuck
  · cases stuck
  · next notQuote =>
    rw [if_neg notQuote]
    split at stuck
    · next opening =>
      rw [if_pos opening]
      exact Scanner.atDepth?_eq_none.mp stuck
    · next notOpen =>
      rw [if_neg notOpen]
      split at stuck
      · next closing =>
        rw [if_pos closing]
        exact Scanner.atDepth?_eq_none.mp stuck
      · cases stuck

/-- A high byte is moved over: at most it is the escaped one. -/
def ByteScanner.pass (scanner : ByteScanner) (b : UInt8) : ByteScanner :=
  { scanner.remember b with escaped := scanner.escaped && scanner.literal != some .quoted }

theorem IsHigh.step (high : IsHigh b) : bytewise.step b = bytewise.pass b := by
  have other : ∀ d, IsAscii d → b ≠ byteOf d := fun d => high.ne_byteOf
  unfold ByteScanner.step ByteScanner.pass
  rcases kind : bytewise.literal with _ | (_ | _)
  · simp [other '"' (by decide), other '(' (by decide), other ')' (by decide),
      ByteScanner.remember, kind]
  · cases pending : bytewise.escaped <;>
      simp [other '\\' (by decide), other '"' (by decide), ByteScanner.remember, kind, pending]
  · simp [other '"' (by decide), ByteScanner.remember, kind]

private theorem IsHigh.not_overflows (high : IsHigh b) : bytewise.overflows b = false := by
  have other : b ≠ byteOf '(' := high.ne_byteOf (by decide)
  simp [ByteScanner.overflows, other]

private theorem Scanner.step_of_long (long : ¬ IsAscii c) : scanner.step c = some
    { scanner.remember c with
    escaped := scanner.escaped && scanner.literal != some .quoted } := by
  have other : ∀ d, IsAscii d → c ≠ d := fun d ascii same => long (same ▸ ascii)
  unfold Scanner.step
  rcases kind : scanner.literal with _ | (_ | _)
  · simp [other '"' (by decide), other '(' (by decide), other ')' (by decide),
      Scanner.remember, kind]
  · cases pending : scanner.escaped <;>
      simp [other '\\' (by decide), other '"' (by decide), Scanner.remember, kind, pending]
  · simp [other '"' (by decide), Scanner.remember, kind]

private theorem foldl_pass (nonempty : bs ≠ []) : ∃ earlier, bs.foldl ByteScanner.pass bytewise =
    ⟨bytewise.literal, bytewise.escaped && bytewise.literal != some .quoted, bytewise.depth,
      some (bs.getLast nonempty), earlier⟩ := by
  induction bs generalizing bytewise with
  | nil => exact absurd rfl nonempty
  | cons b bs ih =>
    cases bs with
    | nil => exact ⟨bytewise.last, rfl⟩
    | cons b' bs =>
      obtain ⟨earlier, passed⟩ := @ih (bytewise.pass b) (List.cons_ne_nil _ _)
      refine ⟨earlier, ?_⟩
      rw [List.foldl_cons, passed, List.getLast_cons (List.cons_ne_nil _ _)]
      simp [ByteScanner.pass, ByteScanner.remember]

theorem Tracks.pass (tracks : Tracks bytewise scanner) (long : ¬ IsAscii c) :
    ∃ next, scanner.step c = some next ∧
      Tracks ((utf8EncodeChar c).foldl ByteScanner.pass bytewise) next := by
  obtain ⟨earlier, passed⟩ := @foldl_pass bytewise _ (String.utf8EncodeChar_ne_nil (c := c))
  refine ⟨_, Scanner.step_of_long long, ?_⟩
  rw [passed]
  refine ⟨tracks.literal, ?_, tracks.depth, rfl, fun d latest ascii => ?_⟩
  · rw [tracks.escaped, tracks.literal]
  · obtain rfl := Option.some.inj latest
    exact absurd ascii long

end Tracking

section Separators

variable {keyword front cs : List Char} {bytes : List UInt8} {i : Nat}

private theorem behindSeparator?_of_notBlank {word : List UInt8} {b : UInt8}
    (stands : bytes[i]? = some b)
    (notBlank : isBlankByte b = false) : behindSeparator? word bytes i = none := by
  unfold behindSeparator?
  rw [stands]
  simp [notBlank]

private theorem skipBlankBytes_encoded (whole : bytes = encoded (front ++ cs)) :
    skipBlankBytes bytes (encoded front).length =
      (encoded (front ++ cs.takeWhile isAsciiBlank)).length := by
  subst whole
  unfold skipBlankBytes
  rw [encoded_append, List.drop_left, takeWhile_encoded, encoded_append, List.length_append]

private theorem getElem?_encoded (front cs : List Char) :
    (encoded (front ++ cs))[(encoded front).length]? = (encoded cs).head? := by
  rw [encoded_append, List.getElem?_append_right le_rfl, Nat.sub_self, List.head?_eq_getElem?]

private theorem any_head?_encoded (cs : List Char) :
    (encoded cs).head?.any isBlankByte = cs.head?.any isAsciiBlank := by
  cases cs with
  | nil => rfl
  | cons c cs =>
    by_cases ascii : IsAscii c
    · rw [encoded_cons_of_ascii ascii]
      exact isBlankByte_byteOf ascii
    · obtain ⟨b, bs, high, written⟩ := encoded_cons_of_long ascii cs
      rw [written]
      have notBlank : isAsciiBlank c = false := by
        rw [← Bool.not_eq_true]
        exact fun blank => ascii (isAscii_of_isAsciiBlank blank)
      exact high.not_blank.trans notBlank.symm

private theorem behindSeparator?_of_blanks (word : IsKeyword keyword) {blanks tail : List Char}
    {d : Char} (blank : ∀ c ∈ blanks, isAsciiBlank c = true) (nonempty : blanks ≠ [])
    (closes : isAsciiBlank d = true)
    (whole : bytes = encoded (front ++ (blanks ++ (keyword ++ d :: tail)))) :
    behindSeparator? (encoded keyword) bytes (encoded front).length =
      some (bytes.length - (encoded (tail.dropWhile isAsciiBlank)).length) := by
  have stops : (keyword ++ d :: tail).takeWhile isAsciiBlank = [] := by
    obtain ⟨k, ks, rfl⟩ := List.exists_cons_of_ne_nil word.nonempty
    simp [word.not_blank List.mem_cons_self]
  have taken : (blanks ++ (keyword ++ d :: tail)).takeWhile isAsciiBlank = blanks := by
    rw [List.takeWhile_append_of_pos blank, stops, List.append_nil]
  have begins : bytes[(encoded front).length]?.any isBlankByte = true := by
    obtain ⟨c, blanks, rfl⟩ := List.exists_cons_of_ne_nil nonempty
    rw [whole, getElem?_encoded, any_head?_encoded]
    exact blank c List.mem_cons_self
  have keywordStart : skipBlankBytes bytes (encoded front).length =
      (encoded (front ++ blanks)).length := by
    rw [skipBlankBytes_encoded whole, taken]
  have found : (bytes.drop (encoded (front ++ blanks)).length).take (encoded keyword).length =
      encoded keyword := by
    rw [whole, ← List.append_assoc, encoded_append (front ++ blanks), List.drop_left,
      encoded_append keyword, List.take_left]
  have keywordEnd : (encoded (front ++ blanks)).length + (encoded keyword).length =
      (encoded (front ++ blanks ++ keyword)).length := by
    rw [encoded_append (front ++ blanks), List.length_append]
  have whole' : bytes = encoded (front ++ blanks ++ keyword ++ d :: tail) := by
    simp only [whole, List.append_assoc]
  have behind : bytes[(encoded (front ++ blanks ++ keyword)).length]?.any isBlankByte = true := by
    rw [whole', getElem?_encoded, any_head?_encoded]
    exact closes
  have length :
      (encoded (front ++ blanks ++ keyword ++ (d :: tail).takeWhile isAsciiBlank)).length =
        bytes.length - (encoded (tail.dropWhile isAsciiBlank)).length := by
    have parts : (d :: tail).takeWhile isAsciiBlank ++ tail.dropWhile isAsciiBlank = d :: tail := by
      rw [List.takeWhile_cons_of_pos closes, List.cons_append, List.takeWhile_append_dropWhile]
    rw [whole', ← parts, ← List.append_assoc, encoded_append _ (tail.dropWhile isAsciiBlank),
      List.length_append, Nat.add_sub_cancel, parts]
  unfold behindSeparator?
  simp only [begins, keywordStart, found, keywordEnd, behind, skipBlankBytes_encoded whole', length,
    beq_self_eq_true, Bool.and_self, if_true]

private theorem blanks_of_behindSeparator? (word : IsKeyword keyword) {next : Nat}
    (whole : bytes = encoded (front ++ cs))
    (found : behindSeparator? (encoded keyword) bytes (encoded front).length = some next) :
    ∃ blanks d tail, blanks ≠ [] ∧ (∀ c ∈ blanks, isAsciiBlank c = true) ∧ isAsciiBlank d = true ∧
      cs = blanks ++ (keyword ++ d :: tail) := by
  have ascii : ∀ c ∈ keyword, IsAscii c := fun c member =>
    isAscii_of_isAlpha (word.letters c member)
  have parts : cs.takeWhile isAsciiBlank ++ cs.dropWhile isAsciiBlank = cs :=
    List.takeWhile_append_dropWhile
  unfold behindSeparator? at found
  rw [skipBlankBytes_encoded whole] at found
  dsimp only at found
  split at found
  case isFalse => nomatch found
  case isTrue here =>
    simp only [Bool.and_eq_true, beq_iff_eq] at here
    obtain ⟨⟨begins, keywordHere⟩, closes⟩ := here
    have drop : bytes.drop (encoded (front ++ cs.takeWhile isAsciiBlank)).length =
        encoded (cs.dropWhile isAsciiBlank) := by
      rw [whole, ← parts, ← List.append_assoc, encoded_append (front ++ _), parts, List.drop_left]
    rw [drop] at keywordHere
    have starts : encoded keyword <+: encoded (cs.dropWhile isAsciiBlank) :=
      keywordHere ▸ List.take_prefix _ _
    obtain ⟨more, behind⟩ := (prefix_encoded_iff ascii).mp starts
    -- What follows the keyword is a blank byte, so a blank.
    have whole' : bytes = encoded (front ++ cs.takeWhile isAsciiBlank ++ keyword ++ more) := by
      rw [whole, List.append_assoc _ keyword, behind, List.append_assoc, parts]
    have keywordEnd : (encoded (front ++ cs.takeWhile isAsciiBlank)).length +
        (encoded keyword).length =
        (encoded (front ++ cs.takeWhile isAsciiBlank ++ keyword)).length := by
      rw [encoded_append (front ++ _) keyword, List.length_append]
    rw [keywordEnd, whole', getElem?_encoded, any_head?_encoded] at closes
    rw [whole, getElem?_encoded, any_head?_encoded] at begins
    obtain ⟨d, first, blank⟩ := (Option.any_eq_true _ _).mp closes
    obtain ⟨tail, rfl⟩ : ∃ tail, more = d :: tail := List.head?_eq_some_iff.mp first
    refine ⟨cs.takeWhile isAsciiBlank, d, tail, ?_, fun c member => List.mem_takeWhile_imp member,
      blank, by rw [behind, parts]⟩
    obtain ⟨c, first, blank⟩ := (Option.any_eq_true _ _).mp begins
    obtain ⟨others, rfl⟩ := List.head?_eq_some_iff.mp first
    rw [List.takeWhile_cons_of_pos blank]
    exact List.cons_ne_nil _ _

private theorem behindSeparator?_encoded (word : IsKeyword keyword)
    (whole : bytes = encoded (front ++ cs)) :
    behindSeparator? (encoded keyword) bytes (encoded front).length =
      (afterSeparator? keyword cs).map fun after => bytes.length - (encoded after).length := by
  cases found : afterSeparator? keyword cs with
  | some after =>
    obtain ⟨blanks, d, tail, nonempty, blank, closes, rfl⟩ := afterSeparator?_eq_some found
    rw [afterSeparator?_of_blanks word blank nonempty closes] at found
    obtain rfl := Option.some.inj found
    exact behindSeparator?_of_blanks word blank nonempty closes whole
  | none =>
    cases found' : behindSeparator? (encoded keyword) bytes (encoded front).length with
    | none => rfl
    | some next =>
      obtain ⟨blanks, d, tail, nonempty, blank, closes, rfl⟩ :=
        blanks_of_behindSeparator? word whole found'
      rw [afterSeparator?_of_blanks word blank nonempty closes] at found
      nomatch found

end Separators

section Cutting

variable {s : String} {front piece rest cs : List Char} {start i : Nat}
  {bytewise : ByteScanner} {word bs : List UInt8} {b : UInt8} {checked : Bool}

private theorem length_encoded (cs : List Char) : (encoded cs).length = utf8Len cs := by
  induction cs with
  | nil => rfl
  | cons c cs ih =>
    rw [encoded_cons, List.length_append, String.length_utf8EncodeChar, ih, String.utf8Len_cons,
      Nat.add_comm]

private theorem isValid_encoded (whole : s.toList = front ++ rest) :
    String.Pos.Raw.isValid s ⟨(encoded front).length⟩ = true := by
  rw [String.Pos.Raw.isValid_eq_true_iff, String.Pos.Raw.isValid_iff_exists_append]
  refine ⟨String.ofList front, String.ofList rest, ?_, ?_⟩
  · rw [← String.ofList_append, ← whole, String.ofList_toList]
  · rw [String.rawEndPos_ofList, length_encoded]

private theorem cut_encoded (whole : s.toList = front ++ piece ++ rest) :
    cut s (encoded front).length (encoded (front ++ piece)).length = .ok (String.ofList piece) := by
  have ordered : (encoded front).length ≤ (encoded (front ++ piece)).length := by
    rw [encoded_append, List.length_append]
    exact Nat.le_add_right _ _
  have first : String.Pos.Raw.isValid s ⟨(encoded front).length⟩ = true :=
    isValid_encoded (whole.trans (List.append_assoc _ _ _))
  have second : String.Pos.Raw.isValid s ⟨(encoded (front ++ piece)).length⟩ = true :=
    isValid_encoded whole
  have extracted : String.Pos.Raw.extract s ⟨(encoded front).length⟩
      ⟨(encoded (front ++ piece)).length⟩ = String.ofList piece := by
    rw [← String.ofList_toList (s := s), whole, length_encoded, length_encoded,
      String.utf8Len_append]
    exact String.extract_of_valid front piece rest
  unfold cut
  rw [if_pos ⟨ordered, first, second⟩, extracted]

private theorem getElem?_bytesOf_length (bytes : bytesOf s = encoded front) :
    (bytesOf s)[(encoded front).length]? = none :=
  List.getElem?_eq_none (by rw [bytes])

private theorem cutsFrom_end (ends : (bytesOf s)[i]? = none) :
    cutsFrom checked word s bytewise start i =
    if bytewise.atTopLevel then (cut s start (bytesOf s).length).map ([·])
    else .error .unterminated := by
  rw [cutsFrom]
  split
  · cases cut s start (bytesOf s).length <;> rfl
  · next stands => cases ends.symm.trans stands

private theorem cutsFrom_separator {next : Nat} (stands : (bytesOf s)[i]? = some b)
    (top : bytewise.atTopLevel = true)
    (separated : behindSeparator? word (bytesOf s) i = some next) :
    cutsFrom checked word s bytewise start i = do
      let piece ← cut s start i
      return piece :: (← cutsFrom checked word s bytewise next next) := by
  rw [cutsFrom]
  split
  · next ends => cases stands.symm.trans ends
  · split
    · next found =>
      rw [if_pos top, separated] at found
      obtain rfl := Option.some.inj found
      rfl
    · next quiet =>
      rw [if_pos top, separated] at quiet
      cases quiet

private theorem cutsFrom_step (stands : (bytesOf s)[i]? = some b)
    (quiet : bytewise.atTopLevel = true → behindSeparator? word (bytesOf s) i = none) :
    cutsFrom checked word s bytewise start i =
      if checked && bytewise.overflows b then .error .overflow
      else if (bytewise.step b).depth < 0 then .error .unbalanced
      else cutsFrom checked word s (bytewise.step b) start (i + 1) := by
  have silent : (if bytewise.atTopLevel then behindSeparator? word (bytesOf s) i else none) =
      none := by
    split
    · next top => exact quiet top
    · rfl
  rw [cutsFrom]
  split
  · next ends => cases stands.symm.trans ends
  · next b' stands' =>
    obtain rfl := Option.some.inj (stands.symm.trans stands')
    split
    · next found => cases silent.symm.trans found
    · rfl

private theorem cutsFrom_high {before behind : List UInt8}
    (whole : bytesOf s = before ++ (bs ++ behind)) (high : ∀ b ∈ bs, IsHigh b)
    (nonneg : 0 ≤ bytewise.depth) :
    cutsFrom checked word s bytewise start before.length =
      cutsFrom checked word s (bs.foldl ByteScanner.pass bytewise) start (before ++ bs).length := by
  induction bs generalizing before bytewise with
  | nil => rw [List.append_nil, List.foldl_nil]
  | cons b bs ih =>
    obtain ⟨head, tail⟩ := List.forall_mem_cons.mp high
    have stands : (bytesOf s)[before.length]? = some b := by
      rw [whole, List.getElem?_append_right le_rfl, Nat.sub_self, List.cons_append,
        List.getElem?_cons_zero]
    have whole' : bytesOf s = (before ++ [b]) ++ (bs ++ behind) := by
      rw [whole, List.append_assoc, List.cons_append, List.singleton_append]
    have later : cutsFrom checked word s (bytewise.pass b) start (before ++ [b]).length = _ :=
      ih whole' tail nonneg
    rw [List.length_append, List.length_singleton, List.append_assoc,
      List.singleton_append] at later
    have counted : ¬ (bytewise.pass b).depth < 0 := Int32.not_lt.mpr nonneg
    rw [cutsFrom_step stands fun _ => behindSeparator?_of_notBlank stands head.not_blank,
      head.not_overflows, Bool.and_false, if_neg Bool.false_ne_true, head.step, if_neg counted,
      List.foldl_cons]
    exact later

end Cutting

section Whole

variable {s : String} {front rest cs : List Char}
  {bytewise : ByteScanner} {scanner : Scanner} {keyword : List Char} {c : Char}

/-- The fault that a fault of splitting is in a build: where the depth overflows, a build that does
not check for it finds a negative depth. -/
def CutFault.ofSplit (checked : Bool) : SplitFault → CutFault
  | .unbalanced => .unbalanced
  | .overflow => if checked then .overflow else .unbalanced
  | .unterminated => .unterminated

/-- Pieces of characters as texts, and faults of splitting as those of cutting. -/
def asCuts (checked : Bool) (pieces : Except SplitFault (List (List Char))) :
    Except CutFault (List String) :=
  (pieces.map (·.map String.ofList)).mapError (.ofSplit checked)

private theorem cutsFrom_character (checked : Bool) (start : Nat) (word : IsKeyword keyword)
    (tracks : Tracks bytewise scanner) (whole : s.toList = front ++ c :: rest)
    (quiet : separatorHere? keyword scanner (c :: rest) = none) :
    match scanner.step c with
    | none => cutsFrom checked (encoded keyword) s bytewise start (encoded front).length =
        .error (.ofSplit checked (if c = '(' then .overflow else .unbalanced))
    | some next => ∃ bytewise', Tracks bytewise' next ∧
        cutsFrom checked (encoded keyword) s bytewise start (encoded front).length =
          cutsFrom checked (encoded keyword) s bytewise' start (encoded (front ++ [c])).length := by
  have bytes : bytesOf s = encoded (front ++ c :: rest) := by rw [bytesOf_eq_encoded, whole]
  by_cases ascii : IsAscii c
  · have stands : (bytesOf s)[(encoded front).length]? = some (byteOf c) := by
      rw [bytes, getElem?_encoded, encoded_cons_of_ascii ascii]
      rfl
    have still : bytewise.atTopLevel = true →
        behindSeparator? (encoded keyword) (bytesOf s) (encoded front).length = none := by
      intro top
      rw [separatorHere?, if_pos (tracks.atTopLevel.symm.trans top)] at quiet
      rw [behindSeparator?_encoded word bytes, quiet]
      rfl
    have moved : (encoded (front ++ [c])).length = (encoded front).length + 1 := by
      rw [encoded_append, List.length_append, encoded_cons_of_ascii ascii]
      rfl
    have overflows := tracks.overflows ascii
    rw [cutsFrom_step stands still, moved]
    cases move : scanner.step c with
    | none =>
      rw [if_pos (tracks.stuck ascii move)]
      by_cases opening : c = '('
      · have here : bytewise.overflows (byteOf c) = true := overflows.mpr ⟨opening, move⟩
        rw [here, if_pos opening]
        cases checked <;> rfl
      · have here : bytewise.overflows (byteOf c) = false :=
          Bool.eq_false_iff.mpr fun full => opening (overflows.mp full).1
        simp [here, opening, CutFault.ofSplit]
    | some next =>
      have here : bytewise.overflows (byteOf c) = false :=
        Bool.eq_false_iff.mpr fun full =>
          Option.some_ne_none next (move.symm.trans (overflows.mp full).2)
      have counted : ¬ next.depth < 0 := Int32.not_lt.mpr next.depth_nonneg
      obtain ⟨latest, earlier⟩ := Scanner.step_memory move
      rw [tracks.step ascii move, here, Bool.and_false, if_neg Bool.false_ne_true, if_neg counted]
      refine ⟨_, ⟨rfl, rfl, rfl, ?_, fun d held _ => ?_⟩, rfl⟩
      · rw [latest, Option.map_some, lastByte_of_ascii ascii]
      · rw [earlier]
        exact tracks.last
  · obtain ⟨next, move, tracks'⟩ := tracks.pass ascii
    have parts : bytesOf s = encoded front ++ (utf8EncodeChar c ++ encoded rest) := by
      rw [bytes, encoded_append, encoded_cons]
    have joined : encoded (front ++ [c]) = encoded front ++ utf8EncodeChar c := by
      have none : encoded [] = [] := rfl
      rw [encoded_append, encoded_cons, none, List.append_nil]
    have nonneg : 0 ≤ bytewise.depth := tracks.depth ▸ scanner.depth_nonneg
    rw [move]
    refine ⟨_, tracks', ?_⟩
    rw [joined]
    exact cutsFrom_high parts (fun b => isHigh_of_mem ascii) nonneg

/-- The scan over bytes cuts out the pieces of what is left, the first of them behind the part of it
that is already read. -/
theorem cutsFrom_encoded (checked : Bool) (front piece : List Char) (word : IsKeyword keyword)
    (tracks : Tracks bytewise scanner) (whole : s.toList = front ++ piece ++ cs) :
    cutsFrom checked (encoded keyword) s bytewise (encoded front).length
        (encoded (front ++ piece)).length =
      asCuts checked ((piecesFrom keyword scanner cs).map (piece.foldr consPiece ·)) := by
  fun_induction piecesFrom keyword scanner cs generalizing bytewise front piece with
  | case1 scanner cs after separated ih =>
    obtain ⟨top, found⟩ := separatorHere?_eq_some separated
    have bytes : bytesOf s = encoded (front ++ piece ++ cs) := by rw [bytesOf_eq_encoded, whole]
    obtain ⟨between, separates, rfl⟩ := isSeparator_of_afterSeparator? word found
    obtain ⟨b, stands⟩ : ∃ b, (bytesOf s)[(encoded (front ++ piece)).length]? = some b := by
      obtain ⟨c, more, rfl, blank⟩ := separates.head
      refine ⟨byteOf c, ?_⟩
      rw [bytes, getElem?_encoded, List.cons_append,
        encoded_cons_of_ascii (isAscii_of_isAsciiBlank blank)]
      rfl
    have next : behindSeparator? (encoded keyword) (bytesOf s) (encoded (front ++ piece)).length =
        some (encoded (front ++ piece ++ between)).length := by
      rw [behindSeparator?_encoded word bytes, found, Option.map_some, bytes, ← List.append_assoc,
        encoded_append _ after, List.length_append, Nat.add_sub_cancel]
    have later := ih (front ++ piece ++ between) [] tracks (by
      rw [whole, List.append_nil, List.append_assoc _ between])
    rw [List.append_nil] at later
    rw [cutsFrom_separator stands (tracks.atTopLevel.trans top) next, cut_encoded whole, later]
    cases piecesFrom keyword scanner after with
    | error fault => rfl
    | ok pieces =>
      simp [asCuts, Except.map, Except.mapError, foldr_consPiece, bind, Except.bind, pure,
        Except.pure]
  | case2 scanner quiet top =>
    have bytes : bytesOf s = encoded (front ++ piece) := by
      rw [bytesOf_eq_encoded, whole, List.append_nil]
    rw [cutsFrom_end (getElem?_bytesOf_length bytes), if_pos (tracks.atTopLevel.trans top), bytes,
      cut_encoded whole]
    simp [asCuts, Except.map, Except.mapError, foldr_consPiece]
  | case3 scanner quiet inside =>
    have bytes : bytesOf s = encoded (front ++ piece) := by
      rw [bytesOf_eq_encoded, whole, List.append_nil]
    rw [cutsFrom_end (getElem?_bytesOf_length bytes), tracks.atTopLevel, if_neg inside]
    rfl
  | case4 scanner c rest quiet stuck =>
    have moved := cutsFrom_character checked (encoded front).length word tracks whole quiet
    rw [stuck] at moved
    exact moved
  | case5 scanner c rest quiet next move ih =>
    have moved := cutsFrom_character checked (encoded front).length word tracks whole quiet
    rw [move] at moved
    obtain ⟨bytewise', tracks', moved⟩ := moved
    have later := ih front (piece ++ [c]) tracks' (by
      rw [whole, List.append_assoc, List.append_assoc, List.append_assoc, List.singleton_append])
    rw [moved, List.append_assoc, later]
    cases found : piecesFrom keyword next rest with
    | error fault => rfl
    | ok pieces => simp [Except.map, bind, Except.bind, pure, Except.pure]

private theorem Scanner.level_step_le {next : Scanner} (move : scanner.step c = some next) :
    next.level ≤ scanner.level + if c == '(' then 1 else 0 := by
  cases kind : scanner.literal with
  | some literal =>
    refine Nat.le_trans (Nat.le_of_eq ?_) (Nat.le_add_right _ _)
    cases literal with
    | quoted =>
      rw [step_of_quoted kind] at move
      obtain rfl := Option.some.inj move
      rfl
    | raw =>
      rw [step_of_raw kind] at move
      obtain rfl := Option.some.inj move
      rfl
  | none =>
    rcases step_outside kind move with ⟨-, rfl⟩ | ⟨rfl, moves⟩ | ⟨outer, -, deep, moves⟩ | ⟨-, rfl⟩
    · exact Nat.le_add_right _ _
    · exact moves.level_eq.le
    · rw [moves.level_eq, deep]
      omega
    · exact Nat.le_add_right _ _

/-- A text whose parentheses cannot be counted has more of them than the depth can count. -/
theorem deepest_lt_count (word : IsKeyword keyword)
    (found : piecesFrom keyword scanner cs = .error .overflow) :
    deepest < scanner.level + cs.count '(' := by
  fun_induction piecesFrom keyword scanner cs with
  | case1 scanner cs after separated ih =>
    rcases bind_eq_error.mp found with found | ⟨_, -, found⟩
    · obtain ⟨between, -, rfl⟩ :=
        isSeparator_of_afterSeparator? word (separatorHere?_eq_some separated).2
      have later := ih found
      rw [List.count_append]
      omega
    · cases found
  | case2 scanner quiet top => cases found
  | case3 scanner quiet inside => cases found
  | case4 scanner c rest quiet stuck =>
    split at found
    · next opening =>
      subst opening
      rw [(Scanner.step_open_eq_none.mp stuck).2, List.count_cons_self]
      omega
    · cases found
  | case5 scanner c rest quiet next move ih =>
    rcases bind_eq_error.mp found with found | ⟨_, -, found⟩
    · have later := ih found
      have level := Scanner.level_step_le move
      rw [List.count_cons]
      omega
    · cases found

private theorem cuts_eq_asCuts (checked : Bool) (word : IsKeyword keyword) :
    cuts checked keyword s = asCuts checked (piecesFrom keyword .start s.toList) := by
  have whole : cutsFrom checked _ s .start 0 0 =
      asCuts checked ((piecesFrom keyword .start s.toList).map ([].foldr consPiece ·)) :=
    cutsFrom_encoded checked [] [] word tracks_start rfl
  have keywordBytes : bytesOf (String.ofList keyword) = encoded keyword := by
    rw [bytesOf_eq_encoded, String.toList_ofList]
  unfold cuts
  rw [keywordBytes]
  refine whole.trans ?_
  cases piecesFrom keyword .start s.toList <;> rfl

/-- Splitting loses nothing and cuts only between characters: pieces and separators make up the
text, and the scan over bytes, which ends on every text, cuts out these pieces or ends with the same
fault.  A build that checks for overflow stops at no other text than one with more parentheses than
the depth can count. -/
theorem cuts_eq (word : IsKeyword keyword) (s : String) :
    (∀ pieces, split keyword s.toList = .ok pieces → Joined keyword pieces s.toList) ∧
      (∀ checked, cuts checked keyword s = asCuts checked (piecesFrom keyword .start s.toList)) ∧
      (∀ checked, cuts checked keyword s ≠ .error .insideCharacter) ∧
      cuts false keyword s ≠ .error .overflow ∧
      (s.toList.count '(' ≤ deepest → cuts true keyword s = cuts false keyword s) := by
  refine ⟨fun pieces done => joined_of_piecesFrom word (split_ok.mp done),
    fun checked => cuts_eq_asCuts checked word, fun checked => ?_, ?_, fun few => ?_⟩
  · rw [cuts_eq_asCuts checked word]
    rcases piecesFrom keyword .start s.toList with (_ | _ | _) | pieces <;> cases checked <;>
      exact nofun
  · rw [cuts_eq_asCuts false word]
    rcases piecesFrom keyword .start s.toList with (_ | _ | _) | pieces <;> exact nofun
  · rw [cuts_eq_asCuts true word, cuts_eq_asCuts false word]
    rcases found : piecesFrom keyword .start s.toList with (_ | _ | _) | pieces
    case error.overflow =>
      have many := deepest_lt_count word found
      rw [Scanner.level_start] at many
      omega
    all_goals rfl

theorem cuts_eq_sample :
    IsKeyword andWord ∧ Joined andWord [['é'], ['b']] "é \tand b".toList ∧
      (∀ checked, cuts checked andWord "é \tand b" = .ok ["é", "b"]) := by
  obtain ⟨joined, same, -⟩ := cuts_eq isKeyword_andWord "é \tand b"
  have found : piecesFrom andWord .start "é \tand b".toList = .ok [['é'], ['b']] := by cbv
  refine ⟨isKeyword_andWord, joined _ (split_ok.mpr found), fun checked => ?_⟩
  rw [same, found]
  rfl

private theorem piecesFrom_deep {n : Nat} (outside : scanner.literal = none)
    (many : deepest < scanner.level + n) :
    piecesFrom keyword scanner (List.replicate n '(' ++ rest) = .error .overflow := by
  induction n generalizing scanner with
  | zero =>
    have bound := scanner.level_le
    omega
  | succ n ih =>
    have quiet : separatorHere? keyword scanner ('(' :: (List.replicate n '(' ++ rest)) = none :=
      separatorHere?_of_notBlank (by decide) _
    rw [List.replicate_succ, List.cons_append, piecesFrom]
    split
    · next found => nomatch quiet.symm.trans found
    · cases move : scanner.step '(' with
      | none => simp only [move, if_true]
      | some next =>
        obtain ⟨-, moves⟩ := Scanner.moves_of_open outside move
        have level := moves.level_eq
        have later := ih (moves.literal.trans outside) (by omega)
        simp only [move, later]
        rfl

/-- There the two kinds of builds part: one stops the program, the other finds the parentheses
unbalanced. -/
theorem cuts_overflow (word : IsKeyword keyword) {n : Nat} (many : deepest < n)
    (begins : s.toList = List.replicate n '(' ++ rest) :
    cuts true keyword s = .error .overflow ∧ cuts false keyword s = .error .unbalanced := by
  have deep : piecesFrom keyword .start s.toList = .error .overflow := by
    rw [begins]
    exact piecesFrom_deep rfl (by simpa using many)
  rw [cuts_eq_asCuts true word, cuts_eq_asCuts false word, deep]
  exact ⟨rfl, rfl⟩

end Whole

end EdgePolicy.Expression
