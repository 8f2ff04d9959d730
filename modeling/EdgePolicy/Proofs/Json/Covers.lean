import EdgePolicy.Json.Value

/-
A JSON value covers what is the same.

Covering looks the members of an object up by name, so of two members with one name only the first
is seen.  The objects of a value are maps: `hasDistinctNames` says that no name stands twice in one
of them, and such a value covers itself (`covers_self`) and whatever is the same (`covers_of_same`).
-/

set_option autoImplicit false
set_option relaxedAutoImplicit false

namespace EdgePolicy.Json.Value

mutual

/-- No object of a value has two members of one name. -/
def hasDistinctNames : Value → Bool
  | .array items => itemsHaveDistinctNames items
  | .object members => (members.map Prod.fst).Nodup && membersHaveDistinctNames members
  | _ => true

def itemsHaveDistinctNames : List Value → Bool
  | [] => true
  | item :: rest => hasDistinctNames item && itemsHaveDistinctNames rest

def membersHaveDistinctNames : List (String × Value) → Bool
  | [] => true
  | (_, value) :: rest => hasDistinctNames value && membersHaveDistinctNames rest

end

mutual

private theorem same_self : ∀ value : Value, same value value = true
  | .null => rfl
  | .bool value => by simp [same]
  | .number (.integer n) => by simp [same, Number.same]
  | .number (.real x) => by simp [same, Number.same, Number.Binary64.same_refl]
  | .string text => by simp [same]
  | .array items => by simpa [same] using sameItems_self items
  | .object members => by simpa [same] using sameMembers_self members

private theorem sameItems_self : ∀ items : List Value, sameItems items items = true
  | [] => rfl
  | item :: rest => by simp [sameItems, same_self item, sameItems_self rest]

private theorem sameMembers_self : ∀ members : List
    (String × Value), sameMembers members members = true
  | [] => rfl
  | (name, value) :: rest => by simp [sameMembers, same_self value, sameMembers_self rest]

end

theorem mem_of_lookup {members : List (String × Value)} {name : String} {value : Value}
    (found : members.lookup name = some value) : (name, value) ∈ members := by
  obtain ⟨front, back, rfl, -⟩ := List.lookup_eq_some_iff.mp found
  exact List.mem_append_right front List.mem_cons_self

theorem lookup_of_nodup {members : List (String × Value)} (distinct : (members.map Prod.fst).Nodup)
    {name : String} {value : Value} (member : (name, value) ∈ members) :
    members.lookup name = some value := by
  induction members with
  | nil => simp at member
  | cons first rest ih =>
    obtain ⟨other, held⟩ := first
    simp only [List.map_cons, List.nodup_cons, List.mem_map, not_exists, not_and] at distinct
    rcases List.mem_cons.mp member with same | later
    · cases same
      simp
    · have differ : name ≠ other := fun same => distinct.1 (name, value) later same
      rw [List.lookup_cons, beq_false_of_ne differ]
      exact ih distinct.2 later

theorem hasDistinctNames_object {members : List (String × Value)} :
    (object members).hasDistinctNames = true ↔
      (members.map Prod.fst).Nodup ∧ ∀ member ∈ members, member.2.hasDistinctNames = true := by
  have each : ∀ rest : List (String × Value), membersHaveDistinctNames rest = true ↔
      ∀ member ∈ rest, member.2.hasDistinctNames = true := by
    intro rest
    induction rest with
    | nil => simp [membersHaveDistinctNames]
    | cons first rest ih => simp [membersHaveDistinctNames, ih]
  rw [hasDistinctNames, Bool.and_eq_true, decide_eq_true_eq, each]

theorem coversMembers_iff {held want : List (String × Value)} :
    coversMembers held want = true ↔
      ∀ member ∈ want, ∃ value, held.lookup member.1 = some value ∧
        value.covers member.2 = true := by
  induction want with
  | nil => simp [coversMembers]
  | cons first rest ih =>
    rw [coversMembers, Bool.and_eq_true, ih, List.forall_mem_cons]
    cases held.lookup first.1 <;> simp

theorem coversMembers_of_mem {held want : List (String × Value)}
    (distinct : (held.map Prod.fst).Nodup)
    (found : ∀ member ∈ want, ∃ value, (member.1, value) ∈ held ∧ value.covers member.2 = true) :
    coversMembers held want = true := by
  refine coversMembers_iff.mpr fun member wanted => ?_
  obtain ⟨value, here, covers⟩ := found member wanted
  exact ⟨value, lookup_of_nodup distinct here, covers⟩

mutual

/-- A value covers one that is the same. -/
theorem covers_of_same : ∀ value other : Value, value.hasDistinctNames = true →
    value.same other = true → value.covers other = true
  | .object held, .object want, distinct, same => by
    obtain ⟨names, parts⟩ := hasDistinctNames_object.mp distinct
    rw [covers]
    exact coversMembers_of_mem names (mem_of_sameMembers held want parts same)
  | .null, _, _, same | .bool _, _, _, same | .number _, _, _, same | .string _, _, _, same
  | .array _, _, _, same => by simpa [covers] using same

private theorem mem_of_sameMembers : ∀ held want : List (String × Value),
    (∀ member ∈ held, member.2.hasDistinctNames = true) → sameMembers held want = true →
    ∀ member ∈ want, ∃ value, (member.1, value) ∈ held ∧ value.covers member.2 = true
  | (name, value) :: held, (other, wanted) :: want, distinct, same => by
    simp only [sameMembers, Bool.and_eq_true, beq_iff_eq] at same
    obtain ⟨⟨rfl, first⟩, later⟩ := same
    obtain ⟨head, tail⟩ := List.forall_mem_cons.mp distinct
    refine List.forall_mem_cons.mpr
      ⟨⟨value, List.mem_cons_self, covers_of_same value wanted head first⟩, ?_⟩
    intro member here
    obtain ⟨found, within, covers⟩ := mem_of_sameMembers held want tail later member here
    exact ⟨found, List.mem_cons_of_mem _ within, covers⟩
  | _, [], _, _ => fun _ here => nomatch here

end

theorem covers_self (value : Value) (distinct : value.hasDistinctNames = true) :
    value.covers value = true :=
  covers_of_same value value distinct (same_self value)

end EdgePolicy.Json.Value
