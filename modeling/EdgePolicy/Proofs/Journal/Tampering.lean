import Mathlib.Data.List.Induction
import EdgePolicy.Proofs.Journal.Chain
import EdgePolicy.Proofs.Journal.Record
import EdgePolicy.Proofs.Json.Nesting
import EdgePolicy.Proofs.Text.Utf8

/-
Two chains that end in the same hash are equal, or show a collision of SHA-256.

The bytes that are hashed for an entry are not delimited.  They still determine what they were made
of (`preimage_injective`): the record stands at the end, no object ends with another object, and the
two parts before it have a fixed length.  So equal hashes lead back from entry to entry
(`eq_or_collide`).
-/

set_option autoImplicit false
set_option relaxedAutoImplicit false

namespace EdgePolicy

open Json (Value)

namespace Sha256

private theorem length_digest (message : List UInt8) : (digest message).length = 32 := rfl

def digitsOf (byte : UInt8) : List Char :=
  [Nat.digitChar (byte.toNat / 16), Nat.digitChar (byte.toNat % 16)]

private theorem hex_digits (bytes : List UInt8) : (hex bytes).toList = bytes.flatMap digitsOf :=
  String.toList_ofList

private theorem digitsOf_injective {byte byte' : UInt8} (same : digitsOf byte = digitsOf byte') :
    byte = byte' := by
  have bound := byte.toNat_lt
  have bound' := byte'.toNat_lt
  obtain ⟨high, low⟩ := List.cons.inj same
  have digit : ∀ {d d' : Nat}, d < 16 → d' < 16 → d.digitChar = d'.digitChar → d = d' := by
    intro d d' small small' equal
    have values := congrArg Text.hexValue? equal
    rw [Text.hexValue?_digitChar small, Text.hexValue?_digitChar small'] at values
    exact Option.some.inj values
  have highs := digit (by omega) (by omega) high
  have lows := digit (by omega) (by omega) (List.cons.inj low).1
  exact UInt8.toNat_inj.mp (by omega)

private theorem hex_injective {bytes bytes' : List UInt8} (same : hex bytes = hex bytes') :
    bytes = bytes' := by
  have digits := congrArg String.toList same
  rw [hex_digits, hex_digits] at digits
  clear same
  induction bytes generalizing bytes' with
  | nil =>
    cases bytes' with
    | nil => rfl
    | cons byte' rest' => exact nomatch digits
  | cons byte rest ih =>
    cases bytes' with
    | nil => exact nomatch digits
    | cons byte' rest' =>
      obtain ⟨head, tail⟩ := @List.append_inj _ (digitsOf byte) (digitsOf byte') _ _ digits rfl
      rw [digitsOf_injective head, ih tail]

private theorem length_utf8_hex (bytes : List UInt8) :
    (Entry.utf8 (hex bytes)).length = 2 * bytes.length := by
  have ascii : ∀ c ∈ bytes.flatMap digitsOf, c.toNat < 128 := by
    intro c member
    obtain ⟨byte, -, digit⟩ := List.mem_flatMap.mp member
    have bound := byte.toNat_lt
    have small : ∀ d < 16, (Nat.digitChar d).toNat < 128 := by decide
    rcases List.mem_cons.mp digit with rfl | digit
    · exact small _ (by omega)
    · rw [List.mem_singleton.mp digit]
      exact small _ (by omega)
  have pairs : (bytes.flatMap digitsOf).length = 2 * bytes.length := by
    induction bytes with
    | nil => rfl
    | cons byte rest ih =>
      rw [List.flatMap_cons, List.length_append, ih fun c member =>
        ascii c (List.mem_flatMap.mpr (by simpa using .inr (List.mem_flatMap.mp member)))]
      simp only [digitsOf, List.length_cons, List.length_nil]
      omega
  rw [Text.utf8_eq_encoded, hex_digits, Text.length_encoded_of_ascii ascii, pairs]

end Sha256

namespace ChangeRecord

/-- A value without numbers that is read as it is where it stands in a record. -/
def IsShallow (value : Value) : Prop :=
  value.isWorded = true ∧ value.documentAt 1 = value.document

private theorem isShallow_optionalString (s : Option String) : IsShallow (.optionalString s) := by
  cases s <;> exact ⟨rfl, rfl⟩

private theorem isShallow_category (category : Category) : IsShallow category.json := by
  rcases category with _ | _ | _ | _ | _ | (_ | _ | _) | _ | _ <;> exact ⟨rfl, rfl⟩

private theorem isShallow_outcome (outcome : Outcome) : IsShallow outcome.json := by
  rcases outcome with (_ | id) | ⟨id, _ | (id' | id')⟩ | id | id <;> exact ⟨rfl, rfl⟩

private theorem json_object (record : ChangeRecord) :
    ∃ members, record.json = .object members ∧ Json.membersAreWorded members = true := by
  refine ⟨_, rfl, ?_⟩
  simp [Json.membersAreWorded, Value.isWorded, RunId.json, Timestamp.json,
    (isShallow_optionalString _).1, (isShallow_category _).1, (isShallow_outcome _).1]

theorem documentAt_json (record : ChangeRecord) :
    record.json.documentAt 0 = record.json.document := by
  simp [json, Value.documentAt, Json.memberDocumentsAt, Value.document, Json.memberDocuments,
    RunId.json, Timestamp.json, Json.Reader.atDepth, Json.Reader.maxDepth,
    (isShallow_optionalString _).2, (isShallow_category _).2, (isShallow_outcome _).2]

private theorem eq_of_compact {first second : ChangeRecord} (valid : first.timestamp.isValid = true)
    (valid' : second.timestamp.isValid = true) {front : List UInt8}
    (ends : Entry.utf8 first.json.compact = front ++ Entry.utf8 second.json.compact) :
    first = second := by
  obtain ⟨members, written, worded⟩ := json_object first
  obtain ⟨members', written', worded'⟩ := json_object second
  obtain ⟨start, shape⟩ := Text.endsWith_of_utf8 ends
  simp only [Value.compact, String.toList_ofList] at shape
  have whole : start = [] := by
    rw [written, written'] at shape
    exact Json.front_nil_of_compact worded worded' shape
  have texts : Json.Writer.compact first.json ++ [] = Json.Writer.compact second.json ++ [] := by
    rw [shape, whole, List.nil_append]
  have closed : first.json.isWorded = true := written ▸ worded
  have closed' : second.json.isWorded = true := written' ▸ worded'
  have documents := (Json.compact_cancel closed closed' texts).2
  rw [documentAt_json, documentAt_json] at documents
  exact document_injective valid valid' documents

end ChangeRecord

namespace Entry

private theorem length_littleEndian (n : UInt64) : (littleEndian n).length = 8 := by
  rw [littleEndian, List.length_map, List.length_reverse, Text.length_lastDigits]

private theorem map_toNat_map_ofNat {ds : List Nat} (bounds : ∀ d ∈ ds, d < 256) :
    (ds.map UInt8.ofNat).map UInt8.toNat = ds := by
  induction ds with
  | nil => rfl
  | cons d ds ih =>
    obtain ⟨head, tail⟩ := List.forall_mem_cons.mp bounds
    rw [List.map_cons, List.map_cons, ih tail, UInt8.toNat_ofNat_of_lt' head]

private theorem reverse_littleEndian (n : UInt64) :
    (littleEndian n).reverse.map UInt8.toNat = Text.lastDigits 256 8 n.toNat := by
  have bounds : ∀ d ∈ Text.lastDigits 256 8 n.toNat, d < 256 := fun d member =>
    Text.lt_of_mem_lastDigits (by decide) member
  rw [littleEndian, ← List.map_reverse, List.reverse_reverse, map_toNat_map_ofNat bounds]

private theorem littleEndian_injective {n m : UInt64} (same : littleEndian n = littleEndian m) :
    n = m := by
  have digits : Text.lastDigits 256 8 n.toNat = Text.lastDigits 256 8 m.toNat := by
    rw [← reverse_littleEndian, same, reverse_littleEndian]
  have bound : ∀ word : UInt64, word.toNat < 256 ^ 8 := fun word => word.toNat_lt
  exact UInt64.toNat_inj.mp (Text.lastDigits_injective (bound n) (bound m) digits)

/-- The bytes that are hashed determine what they were made of. -/
theorem preimage_injective {id id' previous previous' : String} {sequence sequence' : UInt64}
    {record record' : ChangeRecord} (valid : record.timestamp.isValid = true)
    (valid' : record'.timestamp.isValid = true) (long : (utf8 previous).length = 64)
    (long' : (utf8 previous').length = 64)
    (same : preimage id sequence record previous = preimage id' sequence' record' previous') :
    id = id' ∧ sequence = sequence' ∧ record = record' ∧ previous = previous' := by
  have records : record = record' := by
    rcases List.append_eq_append_iff.mp same with ⟨front, -, ends⟩ | ⟨front, -, ends⟩
    · exact ChangeRecord.eq_of_compact valid valid' ends
    · exact (ChangeRecord.eq_of_compact valid' valid ends).symm
  subst records
  have heads := List.append_cancel_right same
  obtain ⟨heads, previous⟩ := List.append_inj' heads (long.trans long'.symm)
  obtain ⟨ids, sequences⟩ := List.append_inj' heads
    ((length_littleEndian sequence).trans (length_littleEndian sequence').symm)
  exact ⟨Text.utf8_injective ids, littleEndian_injective sequences, rfl,
    Text.utf8_injective previous⟩

def hashed (entry : Entry) : List UInt8 :=
  preimage entry.journalId entry.sequence entry.record entry.previousHash

/-- Among the bytes that are hashed for some entries, two different ones have the same digest. -/
def Collide (entries : List Entry) : Prop :=
  ∃ first ∈ entries, ∃ second ∈ entries,
    first.hashed ≠ second.hashed ∧ Sha256.digest first.hashed = Sha256.digest second.hashed

theorem Collide.mono {entries more : List Entry} (among : entries ⊆ more)
    (collide : Collide entries) : Collide more := by
  obtain ⟨first, member, second, member', collision⟩ := collide
  exact ⟨first, among member, second, among member', collision⟩

private theorem hash_of_sealed {entry : Entry} (whole : entry.isSealed = true) :
    entry.hash = Sha256.hex (Sha256.digest entry.hashed) := by
  unfold isSealed at whole
  rw [← beq_iff_eq.mp whole, hashOf, hashed]

private theorem length_genesis : (utf8 genesis).length = 64 := by
  have zeros : ∀ c ∈ List.replicate 64 '0', c.toNat < 128 := by
    intro c member
    rw [List.eq_of_mem_replicate member]
    decide
  have letters : genesis.toList = List.replicate 64 '0' := String.toList_ofList
  rw [Text.utf8_eq_encoded, letters, Text.length_encoded_of_ascii zeros, List.length_replicate]

private theorem length_hashAfter {entries : List Entry} (chain : isChain entries = true) :
    (utf8 (hashAfter genesis entries)).length = 64 := by
  rcases List.eq_nil_or_concat entries with rfl | ⟨front, last, rfl⟩
  · rw [hashAfter_nil, length_genesis]
  · rw [List.concat_eq_append] at chain ⊢
    obtain ⟨-, -, -, whole⟩ := isChain_concat.mp chain
    rw [hashAfter_concat, hash_of_sealed whole, Sha256.length_utf8_hex, Sha256.length_digest]

private theorem eq_or_collide_of_hash {first second : Entry} (whole : first.isSealed = true)
    (whole' : second.isSealed = true) (valid : first.record.timestamp.isValid = true)
    (valid' : second.record.timestamp.isValid = true)
    (long : (utf8 first.previousHash).length = 64) (long' : (utf8 second.previousHash).length = 64)
    (same : first.hash = second.hash) :
    first = second ∨ first.hashed ≠ second.hashed ∧
      Sha256.digest first.hashed = Sha256.digest second.hashed := by
  have digests : Sha256.digest first.hashed = Sha256.digest second.hashed := by
    rw [hash_of_sealed whole, hash_of_sealed whole'] at same
    exact Sha256.hex_injective same
  by_cases alike : first.hashed = second.hashed
  · obtain ⟨ids, sequences, records, previous⟩ :=
      preimage_injective valid valid' long long' alike
    rw [isSealed_iff.mp whole, isSealed_iff.mp whole', ids, sequences, records, previous]
    exact .inl rfl
  · exact .inr ⟨alike, digests⟩

/-- Entries that a memory can hold: no more than there are sequence numbers, recorded at points in
time that exist. -/
structure Storable (entries : List Entry) : Prop where
  few : entries.length ≤ UInt64.size
  timely : ∀ entry ∈ entries, entry.record.timestamp.isValid = true

private theorem eq_or_collide_of_length {entries others : List Entry}
    (length : entries.length = others.length) (chain : isChain entries = true)
    (chain' : isChain others = true)
    (timely : ∀ entry ∈ entries, entry.record.timestamp.isValid = true)
    (timely' : ∀ entry ∈ others, entry.record.timestamp.isValid = true)
    (same : hashAfter genesis entries = hashAfter genesis others) :
    entries = others ∨ Collide (entries ++ others) := by
  induction entries using List.reverseRecOn generalizing others with
  | nil => exact .inl (List.length_eq_zero_iff.mp length.symm).symm
  | append_singleton front last ih =>
    rcases List.eq_nil_or_concat others with rfl | ⟨front', last', rfl⟩
    · simp at length
    rw [List.concat_eq_append] at length chain' timely' same ⊢
    obtain ⟨before, -, linked, whole⟩ := isChain_concat.mp chain
    obtain ⟨before', -, linked', whole'⟩ := isChain_concat.mp chain'
    obtain ⟨earlier, valid⟩ := List.forall_mem_append.mp timely
    obtain ⟨earlier', valid'⟩ := List.forall_mem_append.mp timely'
    rw [hashAfter_concat, hashAfter_concat] at same
    have lasts := eq_or_collide_of_hash whole whole' (valid last (List.mem_singleton_self last))
      (valid' last' (List.mem_singleton_self last')) (linked ▸ length_hashAfter before)
      (linked' ▸ length_hashAfter before') same
    rcases lasts with rfl | collision
    · have fronts := ih (by simpa using length) before before' earlier earlier'
        (linked.symm.trans linked')
      rcases fronts with rfl | collide
      · exact .inl rfl
      · refine .inr (collide.mono fun entry member => ?_)
        rcases List.mem_append.mp member with here | here <;> simp [here]
    · exact .inr ⟨last, by simp, last', by simp, collision⟩

/-- Two chains that end in the same hash are equal entry by entry, or two different ones of the
inputs that were hashed for them have the same digest.  The inputs themselves tell their journal,
sequence number, previous hash and record apart. -/
theorem eq_or_collide :
    (∀ (entries others : List Entry) (last last' : Entry), entries.getLast? = some last →
      others.getLast? = some last' → last.hash = last'.hash → isChain entries = true →
      isChain others = true → Storable entries → Storable others →
        entries = others ∨ Collide (entries ++ others)) ∧
    ∀ (id id' previous previous' : String) (sequence sequence' : UInt64)
      (record record' : ChangeRecord), record.timestamp.isValid = true →
      record'.timestamp.isValid = true → (utf8 previous).length = 64 →
      (utf8 previous').length = 64 →
      preimage id sequence record previous = preimage id' sequence' record' previous' →
        id = id' ∧ sequence = sequence' ∧ record = record' ∧ previous = previous' := by
  refine ⟨?_, fun _ _ _ _ _ _ _ _ valid valid' long long' =>
    preimage_injective valid valid' long long'⟩
  intro entries others last last' ends ends' same chain chain' storable storable'
  obtain ⟨front, rfl⟩ := List.getLast?_eq_some_iff.mp ends
  obtain ⟨front', rfl⟩ := List.getLast?_eq_some_iff.mp ends'
  obtain ⟨before, numbered, linked, whole⟩ := isChain_concat.mp chain
  obtain ⟨before', numbered', linked', whole'⟩ := isChain_concat.mp chain'
  have lasts := eq_or_collide_of_hash whole whole' (storable.timely last (by simp))
    (storable'.timely last' (by simp)) (linked ▸ length_hashAfter before)
    (linked' ▸ length_hashAfter before') same
  rcases lasts with rfl | collision
  · -- Equal last entries have one sequence number, so the chains have one length.
    have few := storable.few
    have few' := storable'.few
    simp only [List.length_append, List.length_singleton] at few few'
    have lengths : front.length = front'.length := by
      have words := congrArg UInt64.toNat (numbered.symm.trans numbered')
      rwa [UInt64.toNat_ofNat_of_lt' (by omega), UInt64.toNat_ofNat_of_lt' (by omega)] at words
    exact eq_or_collide_of_length (by simp [lengths]) chain chain' storable.timely
      storable'.timely (by simp)
  · exact .inr ⟨last, by simp, last', by simp, collision⟩

private theorem storable_sample (id : String) :
    Storable (written id 0 genesis Journal.sampleRecords) where
  few := by
    have length : ((written id 0 genesis Journal.sampleRecords).map record).length = 2 := by
      rw [map_record_written]
      rfl
    rw [List.length_map] at length
    rw [length]
    decide
  timely := by
    have valid : Timestamp.epoch.isValid = true := by decide
    intro entry member
    have recorded := List.mem_map_of_mem (f := record) member
    rw [map_record_written] at recorded
    rcases List.mem_cons.mp recorded with first | second
    · rw [first]
      exact valid
    · rw [List.mem_singleton.mp second]
      exact valid

theorem eq_or_collide_sample :
    (∃ last, (written "journal" 0 genesis Journal.sampleRecords).getLast? = some last ∧
      isChain (written "journal" 0 genesis Journal.sampleRecords) = true ∧
      Storable (written "journal" 0 genesis Journal.sampleRecords) ∧
      (written "journal" 0 genesis Journal.sampleRecords =
          written "journal" 0 genesis Journal.sampleRecords ∨
        Collide (written "journal" 0 genesis Journal.sampleRecords ++
          written "journal" 0 genesis Journal.sampleRecords))) ∧
    ∀ record ∈ Journal.sampleRecords, record.timestamp.isValid = true ∧
      preimage "journal" 0 record genesis ≠ preimage "journals" 0 record genesis := by
  have chain : isChain (written "journal" 0 genesis Journal.sampleRecords) = true :=
    follows_written Journal.sampleRecords
  have storable := storable_sample "journal"
  refine ⟨⟨_, rfl, chain, storable, ?_⟩, fun record member => ?_⟩
  · exact eq_or_collide.1 _ _ _ _ rfl rfl rfl chain chain storable storable
  · have valid : record.timestamp.isValid = true := by
      revert record
      decide
    refine ⟨valid, fun same => ?_⟩
    have names := (eq_or_collide.2 _ _ _ _ _ _ _ _ valid valid length_genesis length_genesis
      same).1
    exact absurd names (by decide)

end Entry

end EdgePolicy
