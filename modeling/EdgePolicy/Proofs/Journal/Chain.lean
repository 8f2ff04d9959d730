import Mathlib.Data.List.Basic
import EdgePolicy.Journal.Chain

/-
A chain of entries is what a journal writes (`isChain_iff_recorded`).

`written` lists the entries that a journal appends for some records, from its sequence number and
the hash that it links to.  Those entries follow that hash, and entries of the journal that follow
it are those entries.
-/

set_option autoImplicit false
set_option relaxedAutoImplicit false

namespace EdgePolicy

namespace Entry

variable {id : String} {sequence : UInt64} {previousHash : String}

def hashAfter (previousHash : String) (entries : List Entry) : String :=
  (entries.getLast?.map (·.hash)).getD previousHash

@[simp] theorem hashAfter_nil : hashAfter previousHash [] = previousHash := rfl

private theorem hashAfter_cons (entry : Entry) (rest : List Entry) :
    hashAfter previousHash (entry :: rest) = hashAfter entry.hash rest := by
  unfold hashAfter
  rw [List.getLast?_cons]
  cases rest.getLast? <;> rfl

@[simp] theorem hashAfter_concat (entries : List Entry) (last : Entry) :
    hashAfter previousHash (entries ++ [last]) = last.hash := by
  simp [hashAfter]

private theorem follows_cons {entry : Entry} {rest : List Entry} :
    follows sequence previousHash (entry :: rest) = true ↔
      entry.sequence = sequence ∧ entry.previousHash = previousHash ∧ entry.isSealed = true ∧
        follows (sequence + 1) entry.hash rest = true := by
  simp only [follows, Bool.and_eq_true, beq_iff_eq, and_assoc]

private theorem follows_append {front back : List Entry} :
    follows sequence previousHash (front ++ back) = true ↔
      follows sequence previousHash front = true ∧
        follows (sequence + UInt64.ofNat front.length) (hashAfter previousHash front) back =
          true := by
  induction front generalizing sequence previousHash with
  | nil => simp [follows]
  | cons entry front ih =>
    have next : sequence + UInt64.ofNat (entry :: front).length =
        sequence + 1 + UInt64.ofNat front.length := by
      rw [List.length_cons, UInt64.ofNat_add]
      ac_rfl
    rw [List.cons_append, follows_cons, follows_cons, ih, hashAfter_cons, next, and_assoc,
      and_assoc, and_assoc]

theorem isChain_concat {entries : List Entry} {last : Entry} :
    isChain (entries ++ [last]) = true ↔
      isChain entries = true ∧ last.sequence = UInt64.ofNat entries.length ∧
        last.previousHash = hashAfter genesis entries ∧ last.isSealed = true := by
  rw [isChain, follows_append, follows_cons, UInt64.zero_add]
  simp only [follows, and_true]
  rfl

private theorem isChain_take {entries : List Entry} (chain : isChain entries = true) (count : Nat) :
    isChain (entries.take count) = true := by
  rw [isChain, ← List.take_append_drop count entries] at chain
  exact (follows_append.mp chain).1

/-- The entries that a journal writes for some records. -/
def written (id : String) (sequence : UInt64) (previousHash : String) :
    List ChangeRecord → List Entry
  | [] => []
  | record :: rest =>
    .of id sequence record previousHash ::
      written id (sequence + 1) (hashOf id sequence record previousHash) rest

theorem isSealed_iff {entry : Entry} :
    entry.isSealed = true ↔
      entry = .of entry.journalId entry.sequence entry.record entry.previousHash := by
  unfold isSealed
  rw [beq_iff_eq]
  constructor
  · intro same
    cases entry
    exact congrArg (Entry.mk _ _ _ _) same.symm
  · exact fun whole => (congrArg Entry.hash whole).symm

private theorem follows_iff_written {entries : List Entry}
    (named : ∀ entry ∈ entries, entry.journalId = id) :
    follows sequence previousHash entries = true ↔
      entries = written id sequence previousHash (entries.map (·.record)) := by
  induction entries generalizing sequence previousHash with
  | nil => simp [follows, written]
  | cons entry rest ih =>
    obtain ⟨rfl, named'⟩ := List.forall_mem_cons.mp named
    rw [follows_cons, List.map_cons, written, List.cons_eq_cons, isSealed_iff, ih named']
    constructor
    · rintro ⟨rfl, rfl, whole, behind⟩
      have hash : entry.hash = hashOf entry.journalId entry.sequence entry.record
        entry.previousHash := congrArg Entry.hash whole
      exact ⟨whole, hash ▸ behind⟩
    · rintro ⟨whole, behind⟩
      have numbered : entry.sequence = sequence := congrArg Entry.sequence whole
      have linked : entry.previousHash = previousHash := congrArg Entry.previousHash whole
      have hash : entry.hash = hashOf entry.journalId sequence entry.record previousHash :=
        congrArg Entry.hash whole
      subst numbered linked
      exact ⟨rfl, rfl, whole, hash ▸ behind⟩

private theorem journalId_of_mem_written {records : List ChangeRecord} {entry : Entry}
    (member : entry ∈ written id sequence previousHash records) : entry.journalId = id := by
  induction records generalizing sequence previousHash with
  | nil => exact nomatch member
  | cons record rest ih =>
    rcases List.mem_cons.mp member with rfl | later
    · rfl
    · exact ih later

theorem map_record_written (records : List ChangeRecord) :
    (written id sequence previousHash records).map (·.record) = records := by
  induction records generalizing sequence previousHash with
  | nil => rfl
  | cons record rest ih => rw [written, List.map_cons, ih, Entry.of]

private theorem map_sequence_written (records : List ChangeRecord) :
    (written id sequence previousHash records).map (·.sequence) =
      (List.range records.length).map fun index => sequence + UInt64.ofNat index := by
  induction records generalizing sequence previousHash with
  | nil => rfl
  | cons record rest ih =>
    have next : ∀ index : Nat, sequence + 1 + UInt64.ofNat index =
        sequence + UInt64.ofNat (index + 1) := fun index => by
      rw [UInt64.ofNat_add]
      ac_rfl
    rw [written, List.map_cons, ih, List.length_cons, List.range_succ_eq_map, List.map_cons,
      List.map_map]
    simp [Entry.of, next, Function.comp_def]

theorem follows_written (records : List ChangeRecord) :
    follows sequence previousHash (written id sequence previousHash records) = true := by
  rw [follows_iff_written fun entry member => journalId_of_mem_written member, map_record_written]

end Entry

namespace Journal

private theorem entries_appendAll (journal : Journal) (records : List ChangeRecord) :
    (journal.appendAll records).entries =
      journal.entries ++ Entry.written journal.id journal.sequence journal.lastHash records := by
  induction records generalizing journal with
  | nil => exact (List.append_nil _).symm
  | cons record rest ih =>
    have step : journal.appendAll (record :: rest) = (journal.append record).appendAll rest := rfl
    rw [step, ih]
    exact List.append_assoc _ _ _

private theorem entries_appendAll_empty (id : String) (records : List ChangeRecord) :
    ((empty id).appendAll records).entries = Entry.written id 0 Entry.genesis records :=
  entries_appendAll (empty id) records

/-- Entries of one journal are a chain exactly when a fresh journal of that name writes them for
their records.  So a journal stays intact whatever is recorded, holds the records in order under the
sequence numbers from zero on, and every front of it is a chain. -/
theorem isChain_iff_recorded (id : String) :
    (∀ entries : List Entry, (∀ entry ∈ entries, entry.journalId = id) →
      (Entry.isChain entries = true ↔
        entries = ((empty id).appendAll (entries.map (·.record))).entries)) ∧
    ∀ (records : List ChangeRecord) (journal : Journal), journal = (empty id).appendAll records →
      journal.isIntact = true ∧ journal.entries.map (·.record) = records ∧
        journal.entries.map (·.sequence) = (List.range records.length).map UInt64.ofNat ∧
        (∀ entry ∈ journal.entries, entry.journalId = id) ∧
        ∀ count, Entry.isChain (journal.entries.take count) = true := by
  refine ⟨fun entries named => ?_, ?_⟩
  · rw [entries_appendAll_empty]
    exact Entry.follows_iff_written named
  · rintro records journal rfl
    have intact : ((empty id).appendAll records).isIntact = true := by
      rw [isIntact, entries_appendAll_empty]
      exact Entry.follows_written records
    refine ⟨intact, ?_, ?_, ?_, Entry.isChain_take intact⟩
    · rw [entries_appendAll_empty, Entry.map_record_written]
    · rw [entries_appendAll_empty, Entry.map_sequence_written]
      simp only [UInt64.zero_add]
    · rw [entries_appendAll_empty]
      exact fun entry member => Entry.journalId_of_mem_written member

/-- A rule was created in one run and found again in the next one. -/
def sampleRecords : List ChangeRecord :=
  [⟨⟨1⟩, "zone", some "ruleset-1", .blacklist, "example.com", "black_ip_example.com",
      .created "rule-1" none, some "(ip.src eq 192.0.2.1)", .epoch⟩,
    ⟨⟨2⟩, "zone", some "ruleset-1", .blacklist, "example.com", "black_ip_example.com",
      .unchanged (some "rule-1"), some "(ip.src eq 192.0.2.1)", .epoch⟩]

theorem isChain_iff_recorded_sample :
    (∀ entry ∈ ((empty "journal").appendAll sampleRecords).entries,
        entry.journalId = "journal") ∧
      Entry.isChain ((empty "journal").appendAll sampleRecords).entries = true ∧
      ((empty "journal").appendAll sampleRecords).entries.map (·.record) = sampleRecords := by
  obtain ⟨accepts, writes⟩ := isChain_iff_recorded "journal"
  obtain ⟨-, records, -, named, -⟩ := writes sampleRecords _ rfl
  refine ⟨named, (accepts _ named).mpr ?_, records⟩
  rw [records]

end Journal

end EdgePolicy
