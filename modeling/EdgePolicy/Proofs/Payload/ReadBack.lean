import EdgePolicy.Journal.Chain
import EdgePolicy.Payload.Json
import EdgePolicy.Proofs.Json.Fields
import EdgePolicy.Proofs.Policy.Settings
import EdgePolicy.Proofs.Zone.Wire

/-
What is decoded is read back from its JSON.

A reader accepts more than a writer writes: several names for a member, loose truth values and
numbers, missing and unknown members, points in time at any offset.  Whatever it accepts, the data
that it gives is in the form that is written, so that it is read back as it stands (`readsBack`, for
every type of data that is exchanged).
-/

set_option autoImplicit false
set_option relaxedAutoImplicit false

namespace EdgePolicy

open Json (Document Fields ReadsBack Value)

namespace Json

private theorem strings?_strings (items : List String) :
    (Value.strings items).document.strings? = some items :=
  list?_array fun _ _ => rfl

theorem Document.natural?_le {document : Document} {bound n : Nat}
    (read : document.natural? bound = some n) : n ≤ bound := by
  obtain ⟨i, whole, rfl⟩ := Option.map_eq_some_iff.mp read
  unfold integer? at whole
  split at whole
  · split at whole
    · next within =>
      cases whole
      exact Int.toNat_le.mpr within.2
    · cases whole
  · cases whole

theorem looseSeconds?_le {document : Document} {n : Nat}
    (read : looseSeconds? document = some (some n)) : n ≤ Text.maxWord64 := by
  unfold looseSeconds? at read
  split at read
  · cases read
  · cases read
  · next s =>
    split at read
    · cases read
    · obtain ⟨_, decoded, same⟩ := Option.map_eq_some_iff.mp read
      cases same
      rw [← String.ofList_toList (s := Text.trim s)] at decoded
      exact (Text.natural?_eq_some.mp decoded).1
  · obtain ⟨_, decoded, same⟩ := Option.map_eq_some_iff.mp read
    cases same
    exact Document.natural?_le decoded

theorem ReadsBack.natural :
    ReadsBack (Document.natural? Text.maxWord64) Value.natural := fun _ _ read =>
  TtlSetting.natural?_natural (Document.natural?_le read)

private theorem looseSeconds?_natural {n : Nat} (fits : n ≤ Text.maxWord64) :
    looseSeconds? (Value.natural n).document = some (some n) :=
  congrArg (Option.map some) (TtlSetting.natural?_natural fits)

private theorem ReadsBack.looseSeconds :
    ReadsBack looseSeconds? (Json.orNull Value.natural) := by
  intro document seconds read
  cases seconds with
  | none => rfl
  | some n => exact looseSeconds?_natural (looseSeconds?_le read)

private theorem received_of_value? {document : Document} (present : document ≠ .null)
    {value : Value} (read : document.value? = some value) : received (some value) = some value := by
  cases value with
  | null =>
    cases document <;> simp [Document.value?, Value.record] at read present
  | _ => rfl

end Json

theorem Operator.readsBack : ReadsBack ofJson? json := fun _ operator _ => ofJson?_json operator

private theorem Action.isCanonical_of_ofJson? {document : Document} {action : Action}
    (read : ofJson? document = some action) : action.isCanonical = true := by
  obtain ⟨name, -, rfl⟩ := Option.map_eq_some_iff.mp read
  exact isCanonical_ofName name

theorem Action.readsBack : ReadsBack ofJson? json := fun _ _ read =>
  ofJson?_json (isCanonical_of_ofJson? read)

theorem Category.readsBack : ReadsBack ofJson? json := fun _ category _ => ofJson?_json category

theorem Outcome.readsBack : ReadsBack ofJson? json := fun _ outcome _ => ofJson?_json outcome

namespace Condition

private theorem isNamed_of_ofJson? {document : Document} {c : Condition}
    (read : ofJson? document = some c) : c.IsNamed := by
  simp only [ofJson?, Option.bind_eq_bind, Option.bind_eq_some_iff, Option.pure_def,
    Option.some.injEq] at read
  obtain ⟨fields, -, field, named, name, -, operator, -, operand, -, join, -, rfl⟩ := read
  obtain ⟨_, source, -, decoded⟩ := Fields.exists_of_required? named
  obtain ⟨s, -, rfl⟩ := Option.map_eq_some_iff.mp decoded
  exact fun path generic => Field.not_mem_catalogue_of_ofName generic

theorem readsBack : ReadsBack ofJson? json := fun _ c read =>
  (ofJson?_json c).trans (congrArg some (catalogued_eq_iff.mpr (isNamed_of_ofJson? read)))

end Condition

namespace Subdomain

theorem ofJson?_json (sub : Subdomain) : ofJson? sub.json.document = some sub := by
  unfold ofJson? json
  rw [Json.record?_object]
  simp [Fields.required?, Value.document, Document.string?]

private theorem list?_json (subdomains : List Subdomain) :
    (Value.array (subdomains.map json)).document.list? ofJson? = some subdomains :=
  Json.list?_array fun sub _ => ofJson?_json sub

end Subdomain

namespace AddressRequest

theorem ofJson?_json (request : AddressRequest) : ofJson? request.json.document = some request := by
  unfold ofJson? json
  rw [Json.record?_object]
  simp [Subdomain.listOf?, Subdomain.listMember, Fields.required?, Fields.withDefault?,
    Subdomain.list?_json, Json.strings?_strings]

end AddressRequest

namespace Country

theorem ofJson?_json (country : Country) : ofJson? country.json.document = some country := by
  obtain ⟨code, name⟩ := country
  unfold ofJson? json
  rw [Json.record?_object, List.map_cons, Json.map_optionalMember]
  cases name <;>
    simp [Fields.required?, Fields.optional?, Fields.withDefault?, Value.document,
      Document.string?, Document.orNull?]

end Country

theorem AccessMode.ofJson?_json (mode : AccessMode) : ofJson? mode.json.document = some mode := by
  cases mode <;> rfl

namespace CountryRequest

theorem ofJson?_json (request : CountryRequest) : ofJson? request.json.document = some request := by
  have countries : (Value.array (request.countries.map Country.json)).document.list?
      Country.ofJson? = some request.countries :=
    Json.list?_array fun country _ => Country.ofJson?_json country
  unfold ofJson? json
  rw [Json.record?_object]
  simp [Subdomain.listOf?, Subdomain.listMember, Fields.required?, Fields.withDefault?,
    Subdomain.list?_json, countries, AccessMode.ofJson?_json]

end CountryRequest

namespace KnownBotRule

theorem readsBack : ReadsBack ofJson? json := by
  intro document rule read
  simp only [ofJson?, Option.bind_eq_bind, Option.bind_eq_some_iff, Option.pure_def,
    Option.some.injEq] at read
  obtain ⟨fields, -, value, -, action, acts, rfl⟩ := read
  have acts := Action.readsBack.required acts
  unfold ofJson? json
  rw [Json.record?_object]
  simp [Fields.required?, Value.document, Document.bool?, acts]

end KnownBotRule

namespace KnownBotRequest

theorem readsBack : ReadsBack ofJson? json := by
  intro document request read
  simp only [ofJson?, Option.bind_eq_bind, Option.bind_eq_some_iff, Option.pure_def,
    Option.some.injEq] at read
  obtain ⟨fields, -, subdomains, -, rule, ruled, rfl⟩ := read
  have ruled := KnownBotRule.readsBack.optional rfl ruled
  unfold ofJson? json
  rw [Json.record?_object]
  simp [Subdomain.listOf?, Subdomain.listMember, Fields.required?, Fields.optional?,
    Fields.withDefault?, Subdomain.list?_json, ruled]

end KnownBotRequest

namespace VerifiedBotRule

theorem readsBack : ReadsBack ofJson? json := by
  intro document rule read
  simp only [ofJson?, Option.bind_eq_bind, Option.bind_eq_some_iff, Option.pure_def,
    Option.some.injEq] at read
  obtain ⟨fields, -, operator, -, categories, -, action, acts, rfl⟩ := read
  have acts := Action.readsBack.required acts
  unfold ofJson? json
  rw [Json.record?_object]
  simp [Fields.required?, Fields.withDefault?, Operator.ofJson?_json, Json.strings?_strings, acts]

end VerifiedBotRule

namespace VerifiedBotRequest

theorem readsBack : ReadsBack ofJson? json := by
  intro document request read
  simp only [ofJson?, Option.bind_eq_bind, Option.bind_eq_some_iff, Option.pure_def,
    Option.some.injEq] at read
  obtain ⟨fields, -, subdomains, -, rule, ruled, rfl⟩ := read
  have ruled := VerifiedBotRule.readsBack.optional rfl ruled
  unfold ofJson? json
  rw [Json.record?_object]
  simp [Subdomain.listOf?, Subdomain.listMember, Fields.required?, Fields.optional?,
    Fields.withDefault?, Subdomain.list?_json, ruled]

end VerifiedBotRequest

namespace CustomRule

theorem readsBack : ReadsBack ofJson? json := by
  intro document rule read
  simp only [ofJson?, Option.bind_eq_bind, Option.bind_eq_some_iff, Option.pure_def,
    Option.some.injEq] at read
  obtain ⟨fields, -, action, acts, conditions, listed, rfl⟩ := read
  have acts := Action.readsBack.required acts
  have listed := Condition.readsBack.list.withDefault rfl listed
  unfold ofJson? json
  rw [Json.record?_object]
  simp [Fields.required?, Fields.withDefault?, acts, listed]

end CustomRule

namespace CustomRequest

theorem readsBack : ReadsBack ofJson? json := by
  intro document request read
  simp only [ofJson?, Option.bind_eq_bind, Option.bind_eq_some_iff, Option.pure_def,
    Option.some.injEq] at read
  obtain ⟨fields, -, subdomains, -, rules, listed, rfl⟩ := read
  have listed := CustomRule.readsBack.list.withDefault rfl listed
  unfold ofJson? json
  rw [Json.record?_object]
  simp [Subdomain.listOf?, Subdomain.listMember, Fields.required?, Fields.withDefault?,
    Subdomain.list?_json, listed]

end CustomRequest

namespace TtlRequest

theorem readsBack : ReadsBack ofJson? json := by
  intro document request read
  simp only [ofJson?, Option.bind_eq_bind, Option.bind_eq_some_iff, Option.pure_def,
    Option.some.injEq] at read
  obtain ⟨fields, -, mode, -, seconds, given, rfl⟩ := read
  have given := Json.ReadsBack.looseSeconds.withDefault rfl given
  unfold ofJson? json
  rw [Json.record?_object]
  simp [Fields.required?, Fields.withDefault?, Json.string?_string, given]

end TtlRequest

namespace CacheSettings

theorem readsBack : ReadsBack ofJson? json := by
  intro document settings read
  simp only [ofJson?, Option.bind_eq_bind, Option.bind_eq_some_iff, Option.pure_def,
    Option.some.injEq] at read
  obtain ⟨fields, -, cache, -, browser, held, edge, held', conditions, listed, rfl⟩ := read
  have held := TtlRequest.readsBack.required held
  have held' := TtlRequest.readsBack.required held'
  have listed := Condition.readsBack.list.withDefault rfl listed
  have cached : Json.looseBool? (Value.bool cache).document = some cache := rfl
  unfold ofJson? json
  rw [Json.record?_object]
  simp [Fields.required?, Fields.withDefault?, cached, held, held', listed]

end CacheSettings

namespace CacheRequest

theorem readsBack : ReadsBack ofJson? json := by
  intro document request read
  simp only [ofJson?, Option.bind_eq_bind, Option.bind_eq_some_iff, Option.pure_def,
    Option.some.injEq] at read
  obtain ⟨fields, -, name, -, zone, -, settings, held, rfl⟩ := read
  have held := CacheSettings.readsBack.required held
  unfold ofJson? json
  rw [Json.record?_object]
  simp [Fields.required?, Json.string?_string, held]

end CacheRequest

theorem DdosRequest.ofJson?_json (request : DdosRequest) :
    ofJson? request.json.document = some request := by
  unfold ofJson? json
  rw [Json.record?_object]
  simp [Fields.required?, Json.string?_string]

theorem TeardownRequest.ofJson?_json (request : TeardownRequest) :
    ofJson? request.json.document = some request := by
  unfold ofJson? json
  rw [Json.record?_object]
  simp [Subdomain.listOf?, Subdomain.listMember, Fields.required?, Subdomain.list?_json]

namespace TtlSetting

theorem readsBack : ReadsBack ofJson? json := by
  intro document setting read
  simp only [ofJson?, Option.bind_eq_bind, Option.bind_eq_some_iff, Option.pure_def,
    Option.some.injEq] at read
  obtain ⟨fields, -, mode, -, seconds, given, rfl⟩ := read
  have given := Json.ReadsBack.natural.optional rfl given
  unfold ofJson? json members
  rw [Json.record?_object, List.map_cons, Json.map_optionalMember]
  cases seconds <;>
    simp_all [Fields.required?, Fields.optional?, Fields.withDefault?, Json.string?_string,
      Json.orNull]

end TtlSetting

namespace CacheParameters

theorem readsBack : ReadsBack ofJson? json := by
  intro document parameters read
  simp only [ofJson?, Option.bind_eq_bind, Option.bind_eq_some_iff, Option.pure_def,
    Option.some.injEq] at read
  obtain ⟨fields, -, cache, -, browser, held, edge, held', rfl⟩ := read
  have held := TtlSetting.readsBack.optional rfl held
  have held' := TtlSetting.readsBack.optional rfl held'
  unfold ofJson? json members
  rw [Json.record?_object, List.map_cons, List.map_append, Json.map_optionalMember,
    Json.map_optionalMember]
  cases browser <;> cases edge <;>
    simp_all [Fields.required?, Fields.optional?, Fields.withDefault?, Value.document,
      Document.bool?, Json.orNull]

end CacheParameters

namespace Timestamp

theorem readsBack : ReadsBack ofJson? json := by
  intro document t read
  obtain ⟨s, -, decoded⟩ := Option.bind_eq_some_iff.mp read
  exact ofJson?_json (isValid_of_ofChars? decoded)

end Timestamp

namespace ChangeRecord

private theorem isValid_of_ofJson? {document : Document} {record : ChangeRecord}
    (read : ofJson? document = some record) : record.timestamp.isValid = true := by
  simp only [ofJson?, Option.bind_eq_bind, Option.bind_eq_some_iff, Option.pure_def,
    Option.some.injEq] at read
  obtain ⟨fields, -, run, -, zone, -, container, -, category, -, domain, -, tag, -, outcome, -,
    expression, -, t, told, rfl⟩ := read
  obtain ⟨_, source, -, decoded⟩ := Fields.exists_of_required? told
  obtain ⟨s, -, read⟩ := Option.bind_eq_some_iff.mp decoded
  exact Timestamp.isValid_of_ofChars? read

theorem readsBack : ReadsBack ofJson? json := fun _ _ read =>
  ofJson?_json (isValid_of_ofJson? read)

end ChangeRecord

namespace Entry

theorem ofJson?_json {entry : Entry} (valid : entry.record.timestamp.isValid = true) :
    ofJson? entry.json.document = some entry := by
  have record := ChangeRecord.ofJson?_json valid
  have bound : entry.sequence.toNat ≤ Text.maxWord64 :=
    Nat.le_sub_one_of_lt entry.sequence.toNat_lt_size
  have sequence := TtlSetting.natural?_natural bound
  unfold ofJson? json
  rw [Json.record?_object]
  simp [Fields.required?, Json.string?_string, record, sequence]

private theorem isValid_of_ofJson? {document : Document} {entry : Entry}
    (read : ofJson? document = some entry) : entry.record.timestamp.isValid = true := by
  simp only [ofJson?, Option.bind_eq_bind, Option.bind_eq_some_iff, Option.pure_def,
    Option.some.injEq] at read
  obtain ⟨fields, -, sequence, -, id, -, record, told, previous, -, hash, -, rfl⟩ := read
  obtain ⟨_, source, -, decoded⟩ := Fields.exists_of_required? told
  exact ChangeRecord.isValid_of_ofJson? decoded

theorem readsBack : ReadsBack ofJson? json := fun _ _ read =>
  ofJson?_json (isValid_of_ofJson? read)

end Entry

namespace RemoteRule

variable {document : Document} {rule : RemoteRule}

theorem exists_of_parameters (read : ofJson? document = some rule) {value : Value}
    (given : rule.parameters = some value) :
    ∃ source : Document, source.height < document.height ∧ source ≠ .null ∧
      source.value? = some value := by
  simp only [ofJson?, Option.bind_eq_bind, Option.bind_eq_some_iff, Option.pure_def,
    Option.some.injEq] at read
  obtain ⟨fields, members, id, -, tag, -, expression, -, action, -, enabled, -, parameters, found,
    logging, -, rfl⟩ := read
  obtain rfl : parameters = some value := given
  obtain ⟨_, source, member, found⟩ := Fields.exists_of_optional? found
  exact ⟨source, Document.height_of_mem_record members member, Document.orNull?_eq_some.mp found⟩

theorem isSorted_of_ofJson? (read : ofJson? document = some rule) {value : Value}
    (given : rule.parameters = some value) : value.isSorted = true := by
  obtain ⟨source, -, -, stands⟩ := exists_of_parameters read given
  exact Json.isSorted_of_value? source value stands

private theorem received_of_ofJson? (read : ofJson? document = some rule) :
    rule.received = rule := by
  have same : Json.received rule.parameters = rule.parameters := by
    cases given : rule.parameters with
    | none => rfl
    | some value =>
      obtain ⟨source, -, present, stands⟩ := exists_of_parameters read given
      exact Json.received_of_value? present stands
  rw [received, same]

private theorem isCanonical_of_ofJson? (read : ofJson? document = some rule) :
    rule.action.isCanonical = true := by
  simp only [ofJson?, Option.bind_eq_bind, Option.bind_eq_some_iff, Option.pure_def,
    Option.some.injEq] at read
  obtain ⟨fields, -, id, -, tag, -, expression, -, action, acts, enabled, -, parameters, -,
    logging, -, rfl⟩ := read
  obtain ⟨_, source, -, acts⟩ := Fields.exists_of_required? acts
  exact Action.isCanonical_of_ofJson? acts

theorem readsBack : ReadsBack ofJson? json := by
  intro document rule read
  have back := ofJson?_json_of_isSorted (isCanonical_of_ofJson? read) fun _ given =>
    isSorted_of_ofJson? read given
  rwa [received_of_ofJson? read] at back

end RemoteRule

namespace Snapshot

theorem exists_of_mem_rules {document : Document} {snapshot : Snapshot}
    (read : ofJson? document = some snapshot) {rule : RemoteRule} (member : rule ∈ snapshot.rules) :
    ∃ source : Document, source.height + 2 ≤ document.height ∧
      RemoteRule.ofJson? source = some rule := by
  simp only [ofJson?, Option.bind_eq_bind, Option.bind_eq_some_iff, Option.pure_def,
    Option.some.injEq] at read
  obtain ⟨fields, members, id, -, name, -, phase, -, rules, listed, rfl⟩ := read
  rcases Fields.exists_of_withDefault? listed with rfl | ⟨_, list, within, listed⟩
  · exact absurd member List.not_mem_nil
  · obtain ⟨source, lower, decoded⟩ := Document.exists_of_mem_list? listed member
    have low : list.height < document.height := Document.height_of_mem_record members within
    exact ⟨source, by omega, decoded⟩

theorem readsBack : ReadsBack ofJson? json := by
  intro document snapshot read
  have rules : (Value.array (snapshot.rules.map RemoteRule.json)).document.list?
      RemoteRule.ofJson? = some snapshot.rules := Json.list?_array fun rule member => by
    obtain ⟨source, -, decoded⟩ := exists_of_mem_rules read member
    exact RemoteRule.readsBack source rule decoded
  unfold ofJson? json
  rw [Json.record?_object]
  simp only [List.map_cons, List.map_nil]
  simp [Fields.required?, Fields.withDefault?, rules, Json.string?_string]

end Snapshot

end EdgePolicy
