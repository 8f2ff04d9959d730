import EdgePolicy.Proofs.Journal.Chain
import EdgePolicy.Proofs.Payload.Travels

/-
Everything that is exchanged as JSON is read back as it was written (`Schema.text_reads_back`).

A schema is a kind of data together with its reader and its writer.  As documents, all data that is
read is read back.  As texts, so is all data but the free parameters of rules, which hold numbers
that need not be read back from their texts; these are the only ones that can be lost.
-/

set_option autoImplicit false
set_option relaxedAutoImplicit false

namespace EdgePolicy

open Json (Document Fields Value)
open Json.Reader (atDepth maxDepth)

namespace Json

private theorem mem_membersRereadAt {members : List (String × Value)} {name : String}
    {value : Value} (member : (name, value) ∈ members) (depth : Nat) :
    (some name, value.rereadAt depth) ∈ membersRereadAt depth members := by
  induction members with
  | nil => cases member
  | cons first members ih =>
    rcases List.mem_cons.mp member with rfl | later
    · exact List.mem_cons_self
    · exact List.mem_cons_of_mem _ (ih later)

private theorem mem_fields_of_rereadAt {members : List (String × Value)} {depth : Nat}
    {fields : Fields} {needed spare : List String}
    (read : ((Value.object members).rereadAt depth).record? needed spare = some fields)
    {name : String} {value : Value} (member : (name, value) ∈ members) :
    (name, value.rereadAt (depth + 1)) ∈ fields := by
  rw [Value.rereadAt, atDepth] at read
  split at read
  · exact Document.mem_fields? read (mem_membersRereadAt member (depth + 1))
  · cases read

private theorem decode_of_list?_rereadAt {α : Type} {decode : Document → Option α}
    {json : α → Value} {items : List α} {depth : Nat}
    (back : ((Value.array (items.map json)).rereadAt depth).list? decode = some items) :
    ∀ item ∈ items, decode ((json item).rereadAt (depth + 1)) = some item := by
  rw [Value.rereadAt, atDepth] at back
  split at back
  · replace back : (itemsRereadAt (depth + 1) (items.map json)).mapM decode = some items := back
    induction items with
    | nil => exact List.forall_mem_nil _
    | cons item items ih =>
      simp only [List.map_cons, itemsRereadAt, List.mapM_cons, Option.bind_eq_bind,
        Option.bind_eq_some_iff, Option.pure_def, Option.some.injEq, List.cons.injEq] at back
      obtain ⟨first, head, rest, tail, rfl, rfl⟩ := back
      exact List.forall_mem_cons.mpr ⟨head, ih tail⟩
  · cases back

end Json

theorem RemoteRule.isReadable_of_rereadAt {rule : RemoteRule} {depth : Nat}
    (back : ofJson? (rule.json.rereadAt depth) = some rule) {value : Value}
    (given : rule.parameters = some value) (sorted : value.isSorted = true) :
    value.isReadable = true := by
  have member : ("action_parameters", value) ∈ [("id", Value.string rule.id),
      ("description", .string rule.tag), ("expression", .string rule.expression),
      ("action", rule.action.json), ("enabled", .bool rule.enabled)]
        ++ Json.optionalMember "action_parameters" Value.itself rule.parameters
        ++ Json.optionalMember "logging" Logging.json rule.logging := by
    rw [given]
    simp [Json.optionalMember, Value.itself]
  simp only [ofJson?, Option.bind_eq_bind, Option.bind_eq_some_iff, Option.pure_def,
    Option.some.injEq] at back
  obtain ⟨fields, members, id, -, tag, -, expression, -, action, -, enabled, -, parameters, found,
    logging, -, same⟩ := back
  obtain rfl : parameters = some value := (congrArg RemoteRule.parameters same).trans given
  have decoded := Fields.orNull?_of_optional? (Json.mem_fields_of_rereadAt members member) found
  exact Json.isReadable_of_rereadAt value (depth + 1) sorted (Document.orNull?_eq_some.mp decoded).2

private theorem Snapshot.ofJson?_rereadAt {snapshot : Snapshot} {depth : Nat}
    (back : ofJson? (snapshot.json.rereadAt depth) = some snapshot) :
    ∀ rule ∈ snapshot.rules, RemoteRule.ofJson? (rule.json.rereadAt (depth + 2)) = some rule := by
  have member : ("rules", Value.array (snapshot.rules.map RemoteRule.json)) ∈
      [("id", .string snapshot.id), ("name", .string snapshot.name),
        ("phase", .string snapshot.phase),
        ("rules", .array (snapshot.rules.map RemoteRule.json))] := by simp
  simp only [ofJson?, Option.bind_eq_bind, Option.bind_eq_some_iff, Option.pure_def,
    Option.some.injEq] at back
  obtain ⟨fields, members, id, -, name, -, phase, -, rules, found, same⟩ := back
  obtain rfl : rules = snapshot.rules := congrArg Snapshot.rules same
  have decoded := Fields.decode_of_withDefault? (List.mem_singleton_self _)
    (Json.mem_fields_of_rereadAt members member) found
  exact Json.decode_of_list?_rereadAt decoded

/-- The kinds of data that are exchanged. -/
inductive Schema where
  | addresses
  | countries
  | knownBot
  | verifiedBot
  | custom
  | cache
  | ddos
  | teardown
  | condition
  | conditions
  | operator
  | category
  | accessMode
  | rule
  | container
  | outcome
  | record
  | cacheParameters
  | entry
  | entries
deriving DecidableEq, Repr

namespace Schema

/-- The data of a kind. -/
def Data : Schema → Type
  | addresses => AddressRequest
  | countries => CountryRequest
  | knownBot => KnownBotRequest
  | verifiedBot => VerifiedBotRequest
  | custom => CustomRequest
  | cache => CacheRequest
  | ddos => DdosRequest
  | teardown => TeardownRequest
  | condition => Condition
  | conditions => List Condition
  | operator => Operator
  | category => Category
  | accessMode => AccessMode
  | rule => RemoteRule
  | container => Snapshot
  | outcome => Outcome
  | record => ChangeRecord
  | cacheParameters => CacheParameters
  | entry => Entry
  | entries => List Entry

/-- How data of a kind is read. -/
def ofJson? : (schema : Schema) → Document → Option schema.Data
  | addresses => AddressRequest.ofJson?
  | countries => CountryRequest.ofJson?
  | knownBot => KnownBotRequest.ofJson?
  | verifiedBot => VerifiedBotRequest.ofJson?
  | custom => CustomRequest.ofJson?
  | cache => CacheRequest.ofJson?
  | ddos => DdosRequest.ofJson?
  | teardown => TeardownRequest.ofJson?
  | condition => Condition.ofJson?
  | conditions => Document.list? Condition.ofJson?
  | operator => Operator.ofJson?
  | category => Category.ofJson?
  | accessMode => AccessMode.ofJson?
  | rule => RemoteRule.ofJson?
  | container => Snapshot.ofJson?
  | outcome => Outcome.ofJson?
  | record => ChangeRecord.ofJson?
  | cacheParameters => CacheParameters.ofJson?
  | entry => Entry.ofJson?
  | entries => Document.list? Entry.ofJson?

/-- How data of a kind is written. -/
def json : (schema : Schema) → schema.Data → Value
  | addresses => AddressRequest.json
  | countries => CountryRequest.json
  | knownBot => KnownBotRequest.json
  | verifiedBot => VerifiedBotRequest.json
  | custom => CustomRequest.json
  | cache => CacheRequest.json
  | ddos => DdosRequest.json
  | teardown => TeardownRequest.json
  | condition => Condition.json
  | conditions => fun conditions => .array (conditions.map Condition.json)
  | operator => Operator.json
  | category => Category.json
  | accessMode => AccessMode.json
  | rule => RemoteRule.json
  | container => Snapshot.json
  | outcome => Outcome.json
  | record => ChangeRecord.json
  | cacheParameters => CacheParameters.json
  | entry => Entry.json
  | entries => fun entries => .array (entries.map Entry.json)

/-- The free values in data: the parameters of rules. -/
def freeValues : (schema : Schema) → schema.Data → List Value
  | rule => fun rule : RemoteRule => rule.parameters.toList
  | container => fun container : Snapshot => container.rules.filterMap RemoteRule.parameters
  | _ => fun _ => []

/-- Read data of a kind from a text. -/
def ofText? (schema : Schema) (text : String) : Option schema.Data :=
  (Document.ofText? text).bind schema.ofJson?

/-- The texts, without and with line breaks, that data of a kind is written as. -/
def texts (schema : Schema) (data : schema.Data) : List String := (schema.json data).texts

theorem readsBack : (schema : Schema) → Json.ReadsBack schema.ofJson? schema.json
  | addresses => fun _ request _ => AddressRequest.ofJson?_json request
  | countries => fun _ request _ => CountryRequest.ofJson?_json request
  | knownBot => KnownBotRequest.readsBack
  | verifiedBot => VerifiedBotRequest.readsBack
  | custom => CustomRequest.readsBack
  | cache => CacheRequest.readsBack
  | ddos => fun _ request _ => DdosRequest.ofJson?_json request
  | teardown => fun _ request _ => TeardownRequest.ofJson?_json request
  | condition => Condition.readsBack
  | conditions => Condition.readsBack.list
  | operator => Operator.readsBack
  | category => Category.readsBack
  | accessMode => fun _ mode _ => AccessMode.ofJson?_json mode
  | rule => RemoteRule.readsBack
  | container => Snapshot.readsBack
  | outcome => Outcome.readsBack
  | record => ChangeRecord.readsBack
  | cacheParameters => CacheParameters.readsBack
  | entry => Entry.readsBack
  | entries => Entry.readsBack.list

/-- Data that is read from a text is written so that all of it travels, if its free values hold only
numbers that are read back. -/
theorem travels (schema : Schema) {document : Document} {data : schema.Data}
    (read : schema.ofJson? document = some data) (room : document.height ≤ maxDepth)
    (readable : ∀ value ∈ schema.freeValues data, value.isReadable = true) :
    (schema.json data).Travels 0 := by
  cases schema with
  | addresses => exact AddressRequest.travels data
  | countries => exact CountryRequest.travels data
  | knownBot => exact KnownBotRequest.travels data
  | verifiedBot => exact VerifiedBotRequest.travels data
  | custom => exact CustomRequest.travels data
  | cache => exact CacheRequest.travels read
  | ddos => exact DdosRequest.travels data
  | teardown => exact TeardownRequest.travels data
  | condition => exact Condition.travels data (by decide)
  | conditions => exact Condition.travels_list data (by decide)
  | operator => exact .string _ (by decide)
  | category => exact Category.travels data (by decide)
  | accessMode => exact AccessMode.travels data (by decide)
  | rule =>
    exact RemoteRule.travels_of_ofJson? read (by decide) (by omega) fun value given =>
      readable value (Option.mem_toList.mpr given)
  | container =>
    exact Snapshot.travels_of_ofJson? read room fun rule member value given =>
      readable value (List.mem_filterMap.mpr ⟨rule, member, given⟩)
  | outcome => exact Outcome.travels data (by decide)
  | record => exact ChangeRecord.travels data (by decide)
  | cacheParameters => exact CacheParameters.travels read
  | entry => exact Entry.travels data (by decide)
  | entries => exact .list (by decide) fun entry _ => entry.travels (by decide)

private theorem isReadable_of_ofText? (schema : Schema) {document : Document} {data : schema.Data}
    (read : schema.ofJson? document = some data) {text : String}
    (written : text ∈ schema.texts data) (back : schema.ofText? text = some data) :
    ∀ value ∈ schema.freeValues data, value.isReadable = true := by
  unfold ofText? at back
  rw [Json.ofText?_texts written, Option.bind_some] at back
  cases schema with
  | rule =>
    intro value free
    have given : RemoteRule.parameters data = some value := Option.mem_toList.mp free
    exact RemoteRule.isReadable_of_rereadAt back given (RemoteRule.isSorted_of_ofJson? read given)
  | container =>
    intro value free
    obtain ⟨rule, member, given⟩ := List.mem_filterMap.mp free
    obtain ⟨source, -, decoded⟩ := Snapshot.exists_of_mem_rules read member
    exact RemoteRule.isReadable_of_rereadAt (Snapshot.ofJson?_rereadAt back rule member) given
      (RemoteRule.isSorted_of_ofJson? decoded given)
  | _ => exact List.forall_mem_nil _

/-- What is read is read back from its JSON, for all kinds of data.  What is read from a text is
read back from each of its texts exactly when the numbers in its free values are, so always for all
kinds of data but rules and containers.  Entries of a journal whose points in time exist are read
back from their texts, and are a chain when they were one. -/
theorem text_reads_back :
    (∀ (schema : Schema) (document : Document) (data : schema.Data),
      schema.ofJson? document = some data →
        schema.ofJson? (schema.json data).document = some data) ∧
    (∀ (schema : Schema) (text : String) (data : schema.Data), schema.ofText? text = some data →
      ∀ written ∈ schema.texts data, schema.ofText? written = some data ↔
        ∀ value ∈ schema.freeValues data, value.isReadable = true) ∧
    ∀ chain : List Entry, (∀ entry ∈ chain, entry.record.timestamp.isValid = true) →
      ∀ written ∈ entries.texts chain, entries.ofText? written = some chain ∧
        (entries.ofText? written).map Entry.isChain = some (Entry.isChain chain) := by
  refine ⟨readsBack, fun schema text data read written here => ?_,
    fun chain valid written here => ?_⟩
  · obtain ⟨document, parsed, read⟩ := Option.bind_eq_some_iff.mp read
    refine ⟨isReadable_of_ofText? schema read here, fun readable => ?_⟩
    have travels := travels schema read (Document.height_ofText? parsed) readable
    unfold ofText?
    rw [travels.ofText?_texts written here, Option.bind_some]
    exact readsBack schema document data read
  · have travels : (Value.array (chain.map Entry.json)).Travels 0 :=
      .list (by decide) fun entry _ => entry.travels (by decide)
    have back : entries.ofText? written = some chain := by
      unfold ofText?
      rw [travels.ofText?_texts written here, Option.bind_some]
      exact Json.list?_array fun entry member => Entry.ofJson?_json (valid entry member)
    exact ⟨back, by rw [back, Option.map_some]⟩

/-- Listed countries as arrays in place of records, with the mode as an object. -/
def positionalText : String :=
  "[[[\"io\",\"a.io\"]],[[\"DE\",null],[\"FR\"]],\x7b\"allow\":null\x7d]"

/-- A rule with some parameters, as a text. -/
def ruleText (parameters : String) : String :=
  "\x7b\"id\":\"r\",\"description\":\"\",\"expression\":\"\",\"action\":\"block\",\"enabled\":true,"
    ++ "\"action_parameters\":" ++ parameters ++ "\x7d"

theorem text_reads_back_sample :
    (∃ document data, Document.ofText? (ruleText "5e32") = some document ∧
      rule.ofJson? document = some data ∧ rule.ofJson? (rule.json data).document = some data) ∧
    (∃ data, rule.ofText? (ruleText "[18446744073709551615, -1, 0.5]") = some data ∧
      rule.ofText? (rule.json data).compact = some data ∧
      rule.ofText? (rule.json data).indented = some data) ∧
    (∃ data : CountryRequest, countries.ofText? positionalText = some data ∧
      data.countries = [⟨"DE", none⟩, ⟨"FR", none⟩] ∧
      countries.ofText? (countries.json data).compact = some data) ∧
    entries.ofText? (entries.json (Entry.written "journal" 0 Entry.genesis
      Journal.sampleRecords)).indented = some (Entry.written "journal" 0 Entry.genesis
        Journal.sampleRecords) := by
  obtain ⟨documents, texts, chains⟩ := text_reads_back
  refine ⟨?_, ?_, ?_, ?_⟩
  · have read : ((Document.ofText? (ruleText "5e32")).bind rule.ofJson?).isSome = true := by
      decide +kernel
    obtain ⟨data, read⟩ := Option.isSome_iff_exists.mp read
    obtain ⟨document, parsed, decoded⟩ := Option.bind_eq_some_iff.mp read
    exact ⟨document, data, parsed, decoded, documents rule document data decoded⟩
  · have read : (rule.ofText? (ruleText "[18446744073709551615, -1, 0.5]")).map (fun data =>
        (rule.freeValues data).all Value.isReadable) = some true := by decide +kernel
    obtain ⟨data, read, readable⟩ := Option.map_eq_some_iff.mp read
    have back (written) (here : written ∈ rule.texts data) : rule.ofText? written = some data :=
      (texts rule _ data read written here).mpr (List.all_eq_true.mp readable)
    exact ⟨data, read, back _ List.mem_cons_self,
      back _ (List.mem_cons_of_mem _ List.mem_cons_self)⟩
  · have read : (countries.ofText? positionalText).map CountryRequest.countries =
        some [⟨"DE", none⟩, ⟨"FR", none⟩] := by decide +kernel
    obtain ⟨data, read, listed⟩ := Option.map_eq_some_iff.mp read
    exact ⟨data, read, listed, (texts countries _ data read _ List.mem_cons_self).mpr
      (List.forall_mem_nil _)⟩
  · refine (chains _ ?_ _ (List.mem_cons_of_mem _ List.mem_cons_self)).1
    decide +kernel

/-- A parameter that is read as the number above the nearest one is written as that number, and its
text is read as the nearest one again. -/
theorem not_text_reads_back :
    ¬ ∀ (schema : Schema) (text : String) (data : schema.Data), schema.ofText? text = some data →
      ∀ written ∈ schema.texts data, schema.ofText? written = some data := by
  intro always
  have first : (rule.ofText? (ruleText "5e32")).map (fun data => (rule.json data).compact) =
      some (ruleText "5.0000000000000004e32") := by decide +kernel
  have second : (rule.ofText? (ruleText "5.0000000000000004e32")).map
      (fun data => (rule.json data).compact) = some (ruleText "5e32") := by decide +kernel
  obtain ⟨data, read, written⟩ := Option.map_eq_some_iff.mp first
  have back := always rule _ data read (rule.json data).compact List.mem_cons_self
  rw [← written, back, Option.map_some, written] at second
  exact absurd second (by decide +kernel)

end Schema

end EdgePolicy
