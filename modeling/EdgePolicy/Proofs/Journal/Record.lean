import EdgePolicy.Journal.Change
import EdgePolicy.Proofs.Journal.Timestamp

/-
Change records are read back from their JSON (`ChangeRecord.ofJson?_json`).

Hence records with the same JSON are the same (`ChangeRecord.document_injective`), as long as their
points in time exist.
-/

set_option autoImplicit false
set_option relaxedAutoImplicit false

namespace EdgePolicy

open Json (Document Fields Value)

namespace Json

theorem string?_string (s : String) : (Value.string s).document.string? = some s := rfl

private theorem orNull?_optionalString (s : Option String) :
    Document.orNull? Document.string? (Value.optionalString s).document = some s := by
  cases s <;> rfl

private theorem memberDocuments_fields (members : List (String × Value)) :
    (memberDocuments members).mapM (fun member => member.1.map (·, member.2)) =
      some (members.map fun member => (member.1, member.2.document)) := by
  induction members with
  | nil => rfl
  | cons member rest ih =>
    rw [memberDocuments, List.mapM_cons, ih]
    rfl

theorem fields?_object (members : List (String × Value)) :
    (Value.object members).document.fields? =
      some (members.map fun member => (member.1, member.2.document)) :=
  memberDocuments_fields members

theorem record?_object (needed spare : List String) (members : List (String × Value)) :
    (Value.object members).document.record? needed spare =
      some (members.map fun member => (member.1, member.2.document)) :=
  fields?_object members

end Json

namespace RunId

private theorem length_digits (run : RunId) : run.digits.length = 32 :=
  Text.length_lastDigits 16 32 run.bits.toNat

private theorem hexValues?_digitChars {ds : List Nat} (bounds : ∀ d ∈ ds, d < 16) :
    (ds.map Nat.digitChar).mapM Text.hexValue? = some ds := by
  induction ds with
  | nil => rfl
  | cons d ds ih =>
    obtain ⟨head, tail⟩ := List.forall_mem_cons.mp bounds
    rw [List.map_cons, List.mapM_cons, Text.hexValue?_digitChar head, ih tail]
    rfl

private theorem ofDigits?_digits (run : RunId) :
    ofDigits? (run.digits.map Nat.digitChar) = some run := by
  have bounds : ∀ d ∈ run.digits, d < 16 := fun d => Text.lt_of_mem_lastDigits (by decide)
  have value : Text.digitsValue 16 run.digits = run.bits.toNat := by
    unfold digits
    rw [Text.digitsValue_lastDigits]
    exact Nat.mod_eq_of_lt run.bits.isLt
  unfold ofDigits?
  rw [hexValues?_digitChars bounds]
  simp only [Option.bind_eq_bind, Option.bind_some, length_digits, if_true, value,
    BitVec.ofNat_toNat, BitVec.setWidth_eq]

private theorem ungroup?_intercalate (groups : List (List Char)) :
    ungroup? (groups.map List.length) (['-'].intercalate groups) = some groups.flatten := by
  induction groups with
  | nil => rfl
  | cons group rest ih =>
    cases rest with
    | nil =>
      rw [List.intercalate_singleton]
      simp [ungroup?]
    | cons next more =>
      have behind : Text.expect? ['-'] ('-' :: ['-'].intercalate (next :: more)) =
          some (['-'].intercalate (next :: more)) :=
        Text.expect?_append ['-'] _
      have long : ¬ (group ++ '-' :: ['-'].intercalate (next :: more)).length < group.length := by
        simp
      rw [List.map_cons] at ih
      rw [List.intercalate_cons_cons, List.append_assoc, List.map_cons, List.map_cons,
        List.singleton_append]
      simp only [ungroup?, if_neg long, List.drop_left, behind, List.take_left, ih,
        Option.bind_eq_bind, Option.bind_some, Option.pure_def, List.flatten_cons]

/-- The five groups of some digits. -/
def groups (ds : List Char) : List (List Char) :=
  [ds.take 8, (ds.drop 8).take 4, (ds.drop 12).take 4, (ds.drop 16).take 4, ds.drop 20]

private theorem text_groups (run : RunId) :
    run.text.toList = ['-'].intercalate (groups (run.digits.map Nat.digitChar)) := by
  unfold text groups
  exact String.toList_ofList

private theorem flatten_groups (ds : List Char) : (groups ds).flatten = ds := by
  have join : ∀ first size : Nat, (ds.drop first).take size ++ ds.drop (first + size) =
      ds.drop first := fun first size => by rw [← List.drop_drop, List.take_append_drop]
  simp only [groups, List.flatten_cons, List.flatten_nil, List.append_nil, join 16 4, join 12 4,
    join 8 4, List.take_append_drop]

private theorem map_length_groups {ds : List Char} (length : ds.length = 32) :
    (groups ds).map List.length = [8, 4, 4, 4, 12] := by
  simp [groups, length]

theorem ofText?_text (run : RunId) : ofText? run.text = some run := by
  have length : (run.digits.map Nat.digitChar).length = 32 := by
    rw [List.length_map, length_digits]
  have read := ungroup?_intercalate (groups (run.digits.map Nat.digitChar))
  rw [map_length_groups length, flatten_groups, ← text_groups] at read
  have size : run.text.toList.length = 36 := by
    rw [text_groups]
    simp [groups, List.intercalate_cons_cons, length_digits]
  unfold ofText?
  simp only [size, ofGroups?, read, Option.bind_eq_bind, Option.bind_some, ofDigits?_digits]
  rfl

theorem ofJson?_json (run : RunId) : ofJson? run.json.document = some run := by
  simp only [ofJson?, json, Value.document, Document.string?, Option.bind_some, ofText?_text]

end RunId

namespace Position

theorem ofJson?_json (position : Position) : ofJson? position.json.document = some position := by
  cases position <;> rfl

end Position

namespace CustomKey

theorem ofJson?_json (key : CustomKey) : ofJson? key.json.document = some key := by
  cases key <;> rfl

end CustomKey

namespace Category

theorem ofJson?_json (category : Category) : ofJson? category.json.document = some category := by
  rcases category with _ | _ | _ | _ | _ | (_ | _ | _) | _ | _ <;> rfl

end Category

namespace Outcome

theorem ofJson?_json (outcome : Outcome) : ofJson? outcome.json.document = some outcome := by
  rcases outcome with (_ | id) | ⟨id, _ | (id' | id')⟩ | id | id <;> rfl

end Outcome

namespace Timestamp

theorem ofJson?_json {t : Timestamp} (valid : t.isValid = true) :
    ofJson? t.json.document = some t := by
  simp only [ofJson?, json, Json.string?_string, Option.bind_some, text, String.toList_ofList,
    ofChars?_chars valid]

end Timestamp

namespace ChangeRecord

/-- A record is read back, when its point in time exists. -/
theorem ofJson?_json {record : ChangeRecord} (valid : record.timestamp.isValid = true) :
    ofJson? record.json.document = some record := by
  unfold ofJson? json
  rw [Json.record?_object]
  simp [Fields.required?, Fields.optional?, Fields.withDefault?, Fields.only?,
    Json.string?_string, Json.orNull?_optionalString, RunId.ofJson?_json, Category.ofJson?_json,
    Outcome.ofJson?_json, Timestamp.ofJson?_json valid]

/-- Records that stand for the same document are the same. -/
theorem document_injective {first second : ChangeRecord}
    (valid : first.timestamp.isValid = true) (valid' : second.timestamp.isValid = true)
    (same : first.json.document = second.json.document) : first = second := by
  have read := ofJson?_json valid
  rw [same, ofJson?_json valid'] at read
  exact (Option.some.inj read).symm

end ChangeRecord

end EdgePolicy
