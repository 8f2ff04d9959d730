import EdgePolicy.Proofs.Payload.ReadBack

/-
What is written is read from its text as it stands.

All data but the free parameters of rules is written flat, and all its numbers are words of 64 bits,
so that nothing is lost on the way through a text (`travels`, type by type).  Parameters that were
read from a text are not nested too deep in it to be written in their place again.
-/

set_option autoImplicit false
set_option relaxedAutoImplicit false

namespace EdgePolicy

open Json (Document Fields Value)
open Json.Reader (maxDepth)

variable {depth : Nat}

namespace Json.Value.Travels

theorem natural {n : Nat} (fits : n ≤ Text.maxWord64) (low : depth ≤ maxDepth) :
    (Value.natural n).Travels depth := by
  have bound : Text.maxWord64 = 2 ^ 64 - 1 := rfl
  exact ⟨isReadable_integer (by omega) (by omega), low⟩

theorem optionalString (s : Option String) (low : depth ≤ maxDepth) :
    (Value.optionalString s).Travels depth := by
  cases s with
  | none => exact .null low
  | some s => exact .string s low

variable {α : Type} {json : α → Value}

theorem list {items : List α} (low : depth < maxDepth)
    (inner : ∀ item ∈ items, (json item).Travels (depth + 1)) :
    (Value.array (items.map json)).Travels depth :=
  .array low (List.forall_mem_map.mpr inner)

theorem strings (items : List String) (low : depth < maxDepth) :
    (Value.strings items).Travels depth :=
  .list low fun _ _ => .string _ low

theorem orNull {value : Option α} (low : depth ≤ maxDepth)
    (inner : ∀ present, value = some present → (json present).Travels depth) :
    (Json.orNull json value).Travels depth := by
  cases value with
  | none => exact .null low
  | some present => exact inner present rfl

end Json.Value.Travels

theorem Operand.travels (operand : Operand) (low : depth + 1 ≤ maxDepth) :
    operand.json.Travels depth := by
  have low' : depth ≤ maxDepth := Nat.le_of_succ_le low
  cases operand with
  | flag value => exact .bool value low'
  | one text => exact .string text low'
  | many texts => exact .strings texts low

theorem Condition.travels (c : Condition) (low : depth + 2 ≤ maxDepth) : c.json.Travels depth := by
  have low' : depth + 1 ≤ maxDepth := Nat.le_of_succ_le low
  refine .object low' (List.forall_mem_append.mpr ⟨List.forall_mem_append.mpr ⟨?_, ?_⟩, ?_⟩)
  · exact List.forall_mem_singleton.mpr (.string _ low')
  · exact .optionalMember fun name _ => .string name low'
  · simp only [List.forall_mem_cons]
    exact ⟨.string _ low', c.operand.travels low, .string _ low', List.forall_mem_nil _⟩

theorem Condition.travels_list (conditions : List Condition) (low : depth + 3 ≤ maxDepth) :
    (Value.array (conditions.map json)).Travels depth :=
  .list (by omega) fun c _ => c.travels low

theorem Subdomain.travels_list (subdomains : List Subdomain) (low : depth + 2 ≤ maxDepth) :
    (Value.array (subdomains.map json)).Travels depth := by
  refine .list (by omega) fun sub _ => .object low ?_
  simp only [List.forall_mem_cons]
  exact ⟨.string _ low, .string _ low, List.forall_mem_nil _⟩

theorem AddressRequest.travels (request : AddressRequest) : request.json.Travels 0 := by
  refine .object (by decide) ?_
  simp only [List.forall_mem_cons]
  exact ⟨Subdomain.travels_list _ (by decide), .strings _ (by decide), List.forall_mem_nil _⟩

theorem Country.travels (country : Country) (low : depth < maxDepth) :
    country.json.Travels depth :=
  .object low (List.forall_mem_cons.mpr
    ⟨.string _ low, .optionalMember fun name _ => .string name low⟩)

theorem AccessMode.travels (mode : AccessMode) (low : depth ≤ maxDepth) :
    mode.json.Travels depth := by
  cases mode <;> exact .string _ low

theorem CountryRequest.travels (request : CountryRequest) : request.json.Travels 0 := by
  refine .object (by decide) ?_
  simp only [List.forall_mem_cons]
  exact ⟨Subdomain.travels_list _ (by decide),
    .list (by decide) fun country _ => country.travels (by decide),
    request.mode.travels (by decide), List.forall_mem_nil _⟩

theorem KnownBotRule.travels (rule : KnownBotRule) (low : depth < maxDepth) :
    rule.json.Travels depth := by
  refine .object low ?_
  simp only [List.forall_mem_cons]
  exact ⟨.bool _ low, .string _ low, List.forall_mem_nil _⟩

theorem KnownBotRequest.travels (request : KnownBotRequest) : request.json.Travels 0 := by
  refine .object (by decide) ?_
  simp only [List.forall_mem_cons]
  exact ⟨Subdomain.travels_list _ (by decide),
    .orNull (by decide) fun rule _ => rule.travels (by decide), List.forall_mem_nil _⟩

theorem VerifiedBotRule.travels (rule : VerifiedBotRule) (low : depth + 2 ≤ maxDepth) :
    rule.json.Travels depth := by
  have low' : depth + 1 ≤ maxDepth := Nat.le_of_succ_le low
  refine .object low' ?_
  simp only [List.forall_mem_cons]
  exact ⟨.string _ low', .strings _ low, .string _ low', List.forall_mem_nil _⟩

theorem VerifiedBotRequest.travels (request : VerifiedBotRequest) : request.json.Travels 0 := by
  refine .object (by decide) ?_
  simp only [List.forall_mem_cons]
  exact ⟨Subdomain.travels_list _ (by decide),
    .orNull (by decide) fun rule _ => rule.travels (by decide), List.forall_mem_nil _⟩

theorem CustomRule.travels (rule : CustomRule) (low : depth + 4 ≤ maxDepth) :
    rule.json.Travels depth := by
  have low' : depth + 1 ≤ maxDepth := by omega
  refine .object low' ?_
  simp only [List.forall_mem_cons]
  exact ⟨.string _ low', Condition.travels_list _ low, List.forall_mem_nil _⟩

theorem CustomRequest.travels (request : CustomRequest) : request.json.Travels 0 := by
  refine .object (by decide) ?_
  simp only [List.forall_mem_cons]
  exact ⟨Subdomain.travels_list _ (by decide),
    .list (by decide) fun rule _ => rule.travels (by decide), List.forall_mem_nil _⟩

namespace TtlRequest

private theorem seconds_le {document : Document} {request : TtlRequest}
    (read : ofJson? document = some request) {n : Nat} (given : request.seconds = some n) :
    n ≤ Text.maxWord64 := by
  simp only [ofJson?, Option.bind_eq_bind, Option.bind_eq_some_iff, Option.pure_def,
    Option.some.injEq] at read
  obtain ⟨fields, -, mode, -, seconds, loose, rfl⟩ := read
  obtain rfl : seconds = some n := given
  rcases Fields.exists_of_withDefault? loose with absent | ⟨_, source, -, decoded⟩
  · cases absent
  · exact Json.looseSeconds?_le decoded

theorem travels {document : Document} {request : TtlRequest}
    (read : ofJson? document = some request) (low : depth < maxDepth) :
    request.json.Travels depth := by
  refine .object low ?_
  simp only [List.forall_mem_cons]
  exact ⟨.string _ low, .orNull low fun n given => .natural (seconds_le read given) low,
    List.forall_mem_nil _⟩

end TtlRequest

theorem CacheSettings.travels {document : Document} {settings : CacheSettings}
    (read : ofJson? document = some settings) (low : depth + 4 ≤ maxDepth) :
    settings.json.Travels depth := by
  simp only [ofJson?, Option.bind_eq_bind, Option.bind_eq_some_iff, Option.pure_def,
    Option.some.injEq] at read
  obtain ⟨fields, -, cache, -, browser, held, edge, held', conditions, -, rfl⟩ := read
  obtain ⟨_, source, -, held⟩ := Fields.exists_of_required? held
  obtain ⟨_, source', -, held'⟩ := Fields.exists_of_required? held'
  have low' : depth + 2 ≤ maxDepth := by omega
  refine .object (by omega) ?_
  simp only [List.forall_mem_cons]
  exact ⟨.bool _ (by omega), TtlRequest.travels held low', TtlRequest.travels held' low',
    Condition.travels_list _ low, List.forall_mem_nil _⟩

theorem CacheRequest.travels {document : Document} {request : CacheRequest}
    (read : ofJson? document = some request) : request.json.Travels 0 := by
  simp only [ofJson?, Option.bind_eq_bind, Option.bind_eq_some_iff, Option.pure_def,
    Option.some.injEq] at read
  obtain ⟨fields, -, name, -, zone, -, settings, held, rfl⟩ := read
  obtain ⟨_, source, -, held⟩ := Fields.exists_of_required? held
  refine .object (by decide) ?_
  simp only [List.forall_mem_cons]
  exact ⟨.string _ (by decide), .string _ (by decide), CacheSettings.travels held (by decide),
    List.forall_mem_nil _⟩

theorem TtlSetting.travels {document : Document} {setting : TtlSetting}
    (read : ofJson? document = some setting) (low : depth < maxDepth) :
    setting.json.Travels depth := by
  simp only [ofJson?, Option.bind_eq_bind, Option.bind_eq_some_iff, Option.pure_def,
    Option.some.injEq] at read
  obtain ⟨fields, -, mode, -, seconds, given, rfl⟩ := read
  refine .object low (List.forall_mem_cons.mpr ⟨.string _ low, .optionalMember ?_⟩)
  rintro n rfl
  obtain ⟨_, source, -, decoded⟩ := Fields.exists_of_optional? given
  exact .natural (Document.natural?_le (Document.orNull?_eq_some.mp decoded).2) low

theorem CacheParameters.travels {document : Document} {parameters : CacheParameters}
    (read : ofJson? document = some parameters) : parameters.json.Travels 0 := by
  simp only [ofJson?, Option.bind_eq_bind, Option.bind_eq_some_iff, Option.pure_def,
    Option.some.injEq] at read
  obtain ⟨fields, -, cache, -, browser, held, edge, held', rfl⟩ := read
  have setting {name : String} {setting : TtlSetting}
      (held : fields.optional? name TtlSetting.ofJson? = some (some setting)) :
      setting.json.Travels 1 := by
    obtain ⟨_, source, -, decoded⟩ := Fields.exists_of_optional? held
    exact TtlSetting.travels (Document.orNull?_eq_some.mp decoded).2 (by decide)
  refine .object (by decide) (List.forall_mem_cons.mpr ⟨.bool _ (by decide),
    List.forall_mem_append.mpr ⟨.optionalMember ?_, .optionalMember ?_⟩⟩)
  · rintro browser rfl
    exact setting held
  · rintro edge rfl
    exact setting held'

theorem DdosRequest.travels (request : DdosRequest) : request.json.Travels 0 := by
  refine .object (by decide) ?_
  simp only [List.forall_mem_cons]
  exact ⟨.string _ (by decide), .string _ (by decide), List.forall_mem_nil _⟩

theorem TeardownRequest.travels (request : TeardownRequest) : request.json.Travels 0 :=
  .object (by decide) (List.forall_mem_singleton.mpr (Subdomain.travels_list _ (by decide)))

theorem CustomKey.travels (key : CustomKey) (low : depth ≤ maxDepth) : key.json.Travels depth :=
  .string _ low

theorem Category.travels (category : Category) (low : depth < maxDepth) :
    category.json.Travels depth := by
  have low' : depth ≤ maxDepth := Nat.le_of_succ_le low
  cases category with
  | custom key => exact .object low (List.forall_mem_singleton.mpr (key.travels low))
  | _ => exact .string _ low'

theorem Position.travels (position : Position) (low : depth < maxDepth) :
    position.json.Travels depth := by
  cases position <;> exact .object low (List.forall_mem_singleton.mpr (.string _ low))

theorem Outcome.travels (outcome : Outcome) (low : depth + 2 ≤ maxDepth) :
    outcome.json.Travels depth := by
  have low' : depth + 1 ≤ maxDepth := Nat.le_of_succ_le low
  refine .object low' (List.forall_mem_cons.mpr ⟨.string _ low', ?_⟩)
  cases outcome with
  | unchanged ruleId => exact .optionalMember fun id _ => .string id low'
  | created ruleId position =>
    exact List.forall_mem_cons.mpr
      ⟨.string _ low', .optionalMember fun position _ => position.travels low⟩
  | patched ruleId => exact List.forall_mem_singleton.mpr (.string _ low')
  | deleted ruleId => exact List.forall_mem_singleton.mpr (.string _ low')

theorem ChangeRecord.travels (record : ChangeRecord) (low : depth + 3 ≤ maxDepth) :
    record.json.Travels depth := by
  have low' : depth + 1 ≤ maxDepth := by omega
  refine .object low' ?_
  simp only [List.forall_mem_cons]
  exact ⟨.string _ low', .string _ low', .optionalString _ low',
    record.category.travels (Nat.le_of_succ_le low), .string _ low', .string _ low',
    record.outcome.travels low, .optionalString _ low', .string _ low', List.forall_mem_nil _⟩

theorem Entry.travels (entry : Entry) (low : depth + 4 ≤ maxDepth) : entry.json.Travels depth := by
  have low' : depth + 1 ≤ maxDepth := by omega
  have fits : entry.sequence.toNat ≤ Text.maxWord64 :=
    Nat.le_sub_one_of_lt entry.sequence.toNat_lt_size
  refine .object low' ?_
  simp only [List.forall_mem_cons]
  exact ⟨.natural fits low', .string _ low', entry.record.travels low, .string _ low',
    .string _ low', List.forall_mem_nil _⟩

/-- A rule that is read from a text is written at the depth at which it was found, and its
parameters are only as readable as their numbers are. -/
theorem RemoteRule.travels_of_ofJson? {document : Document} {rule : RemoteRule}
    (read : ofJson? document = some rule) (low : depth + 2 ≤ maxDepth)
    (room : depth + document.height ≤ maxDepth)
    (readable : ∀ value, rule.parameters = some value → value.isReadable = true) :
    rule.json.Travels depth := by
  refine travels_of_parameters low fun value given => ?_
  obtain ⟨source, lower, -, stands⟩ := exists_of_parameters read given
  have height := Json.height_value? source value stands
  exact ⟨readable value given, by omega⟩

theorem Snapshot.travels_of_ofJson? {document : Document} {snapshot : Snapshot}
    (read : ofJson? document = some snapshot) (room : document.height ≤ maxDepth)
    (readable : ∀ rule ∈ snapshot.rules, ∀ value, rule.parameters = some value →
      value.isReadable = true) : snapshot.json.Travels 0 := by
  refine .object (by decide) ?_
  simp only [List.forall_mem_cons]
  refine ⟨.string _ (by decide), .string _ (by decide), .string _ (by decide),
    .list (by decide) fun rule member => ?_, List.forall_mem_nil _⟩
  obtain ⟨source, lower, decoded⟩ := exists_of_mem_rules read member
  exact RemoteRule.travels_of_ofJson? decoded (by decide) (by omega) (readable rule member)

end EdgePolicy
