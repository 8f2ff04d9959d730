import EdgePolicy.Payload.Json
import EdgePolicy.Proofs.Condition.Document
import EdgePolicy.Proofs.Json.Height

/-
What is decoded from the members of an object.

Every member is decoded from a part of the document, which is lower than the whole, and from the one
that stands under its name.  A decoder
`ReadsBack` when the data that it gives, written again, is decoded to the same.  That passes from
the decoder of a member to the member, whether it must be there, has a value for when it is missing
or may be `null`.
-/

set_option autoImplicit false
set_option relaxedAutoImplicit false

namespace EdgePolicy.Json

variable {α β : Type} {decode : Document → Option α} {json : α → Value} {fields : Fields}
  {name : String} {names : List String}

theorem exists_of_mem_mapM {f : α → Option β} {items : List α} {values : List β}
    (read : items.mapM f = some values) {value : β} (member : value ∈ values) :
    ∃ item ∈ items, f item = some value := by
  induction items generalizing values with
  | nil =>
    cases read
    exact nomatch member
  | cons item items ih =>
    simp only [List.mapM_cons, Option.bind_eq_bind, Option.bind_eq_some_iff, Option.pure_def,
      Option.some.injEq] at read
    obtain ⟨first, head, rest, tail, rfl⟩ := read
    rcases List.mem_cons.mp member with rfl | later
    · exact ⟨item, List.mem_cons_self, head⟩
    · obtain ⟨source, within, decoded⟩ := ih tail later
      exact ⟨source, List.mem_cons_of_mem _ within, decoded⟩

theorem Document.eq_zip_of_record? {items : List Document} {needed spare : List String}
    (read : (Document.array items).record? needed spare = some fields) :
    fields = (needed ++ spare).zip items := by
  change (if _ then _ else _) = _ at read
  split_ifs at read
  exact (Option.some.inj read).symm

theorem Document.height_of_mem_record {document : Document} {needed spare : List String}
    (read : document.record? needed spare = some fields) {field : String × Document}
    (member : field ∈ fields) : field.2.height < document.height := by
  cases document with
  | array items =>
    rw [eq_zip_of_record? read] at member
    exact Nat.lt_succ_of_le (itemDocumentsHeight_ge (List.of_mem_zip member).2)
  | object members =>
    obtain ⟨source, within, decoded⟩ := exists_of_mem_mapM read member
    obtain ⟨_, -, rfl⟩ := Option.map_eq_some_iff.mp decoded
    exact Nat.lt_succ_of_le (memberDocumentsHeight_ge within)
  | _ => cases read

theorem Document.mem_fields? {members : List (Option String × Document)} {fields : Fields}
    {name : String} {document : Document} (read : (Document.object members).fields? = some fields)
    (member : (some name, document) ∈ members) : (name, document) ∈ fields := by
  change members.mapM (fun member => member.1.map (·, member.2)) = some fields at read
  induction members generalizing fields with
  | nil => nomatch member
  | cons first members ih =>
    simp only [List.mapM_cons, Option.bind_eq_bind, Option.bind_eq_some_iff, Option.pure_def,
      Option.some.injEq] at read
    obtain ⟨field, named, rest, others, rfl⟩ := read
    rcases List.mem_cons.mp member with rfl | member
    · obtain rfl := Option.some.inj named
      exact List.mem_cons_self
    · exact List.mem_cons_of_mem _ (ih member others)

theorem Document.exists_of_mem_list? {document : Document} {values : List α}
    (read : document.list? decode = some values) {value : α} (member : value ∈ values) :
    ∃ item : Document, item.height < document.height ∧ decode item = some value := by
  obtain ⟨items, shape, read⟩ := Option.bind_eq_some_iff.mp read
  obtain ⟨item, within, decoded⟩ := exists_of_mem_mapM read member
  refine ⟨item, ?_, decoded⟩
  unfold Document.items? at shape
  split at shape
  · cases shape
    exact Nat.lt_succ_of_le (itemDocumentsHeight_ge within)
  · cases shape

namespace Fields

private theorem exists_of_only? {document : Document}
    (found : fields.only? names = some (some document)) :
    ∃ name, (name, document) ∈ fields := by
  unfold only? at found
  split at found
  · cases found
  · next field one =>
    cases found
    refine ⟨field.1, List.mem_of_mem_filter (p := fun field => names.contains field.1) ?_⟩
    rw [one]
    exact List.mem_cons_self
  · cases found

theorem exists_of_required? {value : α} (read : fields.required? name decode = some value) :
    ∃ name document, (name, document) ∈ fields ∧ decode document = some value := by
  obtain ⟨document?, found, read⟩ := Option.bind_eq_some_iff.mp read
  obtain ⟨document, rfl, decoded⟩ := Option.bind_eq_some_iff.mp read
  obtain ⟨name, member⟩ := exists_of_only? found
  exact ⟨name, document, member, decoded⟩

theorem exists_of_withDefault? {default value : α}
    (read : fields.withDefault? names default decode = some value) :
    value = default ∨
      ∃ name document, (name, document) ∈ fields ∧ decode document = some value := by
  obtain ⟨document?, found, read⟩ := Option.bind_eq_some_iff.mp read
  cases document? with
  | none => exact .inl (Option.some.inj read).symm
  | some document =>
    obtain ⟨name, member⟩ := exists_of_only? found
    exact .inr ⟨name, document, member, read⟩

theorem exists_of_optional? {value : α} (read : fields.optional? name decode = some (some value)) :
    ∃ name document, (name, document) ∈ fields ∧ document.orNull? decode = some (some value) :=
  (exists_of_withDefault? read).resolve_left (Option.some_ne_none value)

private theorem eq_of_only? {document : Document} {found : Option Document} (named : name ∈ names)
    (member : (name, document) ∈ fields) (only : fields.only? names = some found) :
    found = some document := by
  have here : (name, document) ∈ fields.filter fun field => names.contains field.1 :=
    List.mem_filter.mpr ⟨member, List.contains_iff_mem.mpr named⟩
  unfold only? at only
  split at only
  · next empty =>
    rw [empty] at here
    cases here
  · next field one =>
    rw [one] at here
    obtain rfl := List.mem_singleton.mp here
    exact (Option.some.inj only).symm
  · cases only

theorem decode_of_withDefault? {document : Document} {default value : α} (named : name ∈ names)
    (member : (name, document) ∈ fields)
    (read : fields.withDefault? names default decode = some value) :
    decode document = some value := by
  obtain ⟨found, only, read⟩ := Option.bind_eq_some_iff.mp read
  obtain rfl := eq_of_only? named member only
  exact read

theorem orNull?_of_optional? {document : Document} {value : Option α}
    (member : (name, document) ∈ fields) (read : fields.optional? name decode = some value) :
    document.orNull? decode = some value :=
  decode_of_withDefault? (List.mem_singleton_self name) member read

end Fields

theorem Document.orNull?_eq_some {document : Document} {value : α} :
    document.orNull? decode = some (some value) ↔
      document ≠ .null ∧ decode document = some value := by
  cases document <;> simp [orNull?]

/-- What is decoded and written again is decoded to the same. -/
def ReadsBack (decode : Document → Option α) (json : α → Value) : Prop :=
  ∀ (document : Document) (value : α), decode document = some value →
    decode (json value).document = some value

namespace ReadsBack

theorem required (back : ReadsBack decode json) {value : α}
    (read : fields.required? name decode = some value) :
    decode (json value).document = some value := by
  obtain ⟨_, document, -, decoded⟩ := Fields.exists_of_required? read
  exact back document value decoded

theorem withDefault (back : ReadsBack decode json) {default value : α}
    (missing : decode (json default).document = some default)
    (read : fields.withDefault? names default decode = some value) :
    decode (json value).document = some value := by
  rcases Fields.exists_of_withDefault? read with rfl | ⟨_, document, -, decoded⟩
  · exact missing
  · exact back document value decoded

theorem orNull (back : ReadsBack decode json) (strict : decode .null = none) :
    ReadsBack (Document.orNull? decode) (orNull json) := by
  intro document value read
  cases value with
  | none => rfl
  | some present =>
    obtain ⟨-, decoded⟩ := Document.orNull?_eq_some.mp read
    have again := back document present decoded
    refine Document.orNull?_eq_some.mpr ⟨fun isNull => ?_, again⟩
    have same : (json present).document = .null := isNull
    rw [same, strict] at again
    cases again

theorem optional (back : ReadsBack decode json) (strict : decode .null = none) {value : Option α}
    (read : fields.optional? name decode = some value) :
    Document.orNull? decode (Json.orNull json value).document = some value :=
  (back.orNull strict).withDefault rfl read

theorem list (back : ReadsBack decode json) :
    ReadsBack (Document.list? decode) fun values => .array (values.map json) := by
  intro document values read
  refine list?_array fun value member => ?_
  obtain ⟨item, -, decoded⟩ := Document.exists_of_mem_list? read member
  exact back item value decoded

end ReadsBack

end EdgePolicy.Json
