import EdgePolicy.Journal.Change
import EdgePolicy.Journal.Sha256
import EdgePolicy.Json.Writer

/-
The change journal: an append-only list of entries chained by their hashes.

Every entry carries the hash of the entry before it and its own hash over journal name, sequence
number, previous hash and record.  `isIntact` recomputes all of them, so a change of any entry shows
in its hash or in the link of the next entry.
-/

set_option autoImplicit false
set_option relaxedAutoImplicit false

namespace EdgePolicy

open Json (Document Value)

structure Entry where
  sequence : UInt64
  journalId : String
  record : ChangeRecord
  previousHash : String
  hash : String
deriving DecidableEq, Repr, Inhabited

namespace Entry

def genesis : String := String.ofList (List.replicate 64 '0')

def utf8 (s : String) : List UInt8 := s.toUTF8.data.toList

/-- The eight bytes of a sequence number, least significant first. -/
def littleEndian (n : UInt64) : List UInt8 :=
  (Text.lastDigits 256 8 n.toNat).reverse.map UInt8.ofNat

def preimage (journalId : String) (sequence : UInt64) (record : ChangeRecord)
    (previousHash : String) : List UInt8 :=
  utf8 journalId ++ littleEndian sequence ++ utf8 previousHash ++ utf8 record.json.compact

def hashOf (journalId : String) (sequence : UInt64) (record : ChangeRecord)
    (previousHash : String) : String :=
  Sha256.hex (Sha256.digest (preimage journalId sequence record previousHash))

def of (journalId : String) (sequence : UInt64) (record : ChangeRecord) (previousHash : String) :
    Entry :=
  ⟨sequence, journalId, record, previousHash, hashOf journalId sequence record previousHash⟩

def json (entry : Entry) : Value :=
  .object [("sequence", .natural entry.sequence.toNat), ("journal_id", .string entry.journalId),
    ("record", entry.record.json), ("prev_hash", .string entry.previousHash),
    ("this_hash", .string entry.hash)]

def ofJson? (document : Document) : Option Entry := do
  let fields ← document.record? ["sequence", "journal_id", "record", "prev_hash", "this_hash"] []
  return {
    sequence := UInt64.ofNat (← fields.required? "sequence" (Document.natural? Text.maxWord64))
    journalId := ← fields.required? "journal_id" Document.string?
    record := ← fields.required? "record" ChangeRecord.ofJson?
    previousHash := ← fields.required? "prev_hash" Document.string?
    hash := ← fields.required? "this_hash" Document.string? }

/-- An entry carries the hash of its own contents. -/
def isSealed (entry : Entry) : Bool :=
  hashOf entry.journalId entry.sequence entry.record entry.previousHash == entry.hash

/-- Entries from a sequence number on follow a hash: each is sealed, numbered and linked. -/
def follows : UInt64 → String → List Entry → Bool
  | _, _, [] => true
  | sequence, previousHash, entry :: rest =>
    entry.sequence == sequence && entry.previousHash == previousHash && entry.isSealed
      && follows (sequence + 1) entry.hash rest

def isChain (entries : List Entry) : Bool := follows 0 genesis entries

end Entry

/-- A journal: a name and its entries, oldest first, with the sequence number and the previous hash
of the next entry. -/
structure Journal where
  id : String
  entries : List Entry
  sequence : UInt64
  lastHash : String
deriving DecidableEq, Repr, Inhabited

namespace Journal

def empty (id : String) : Journal := ⟨id, [], 0, Entry.genesis⟩

def append (journal : Journal) (record : ChangeRecord) : Journal :=
  let entry := Entry.of journal.id journal.sequence record journal.lastHash
  { journal with
    entries := journal.entries ++ [entry]
    sequence := journal.sequence + 1
    lastHash := entry.hash }

def appendAll (journal : Journal) (records : List ChangeRecord) : Journal :=
  records.foldl append journal

/-- No entry was changed, removed or reordered. -/
def isIntact (journal : Journal) : Bool := Entry.isChain journal.entries

/-- The hash of the last entry, empty without entries. -/
def terminalHash (journal : Journal) : String :=
  (journal.entries.getLast?.map (·.hash)).getD ""

/-- The number of entries that changed a rule. -/
def mutations (journal : Journal) : Nat :=
  journal.entries.countP (·.record.outcome.isMutation)

def json (journal : Journal) (exportedAt : Timestamp) : Value :=
  .object [("journal_id", .string journal.id),
    ("entries", .array (journal.entries.map Entry.json)),
    ("exported_at", exportedAt.json), ("terminal_hash", .string journal.terminalHash)]

end Journal

end EdgePolicy
