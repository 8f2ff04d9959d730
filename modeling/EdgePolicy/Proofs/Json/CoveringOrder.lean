import Mathlib.Logic.Relation
import EdgePolicy.Proofs.Json.Covers
import EdgePolicy.Proofs.Json.Free

/-
Covering is an order.

Numbers are compared without the signs of zeros (`Value.same_iff`) and objects are maps, so a value
has a form that depends on neither (`Value.canonical`).  Values that cover each other agree in it,
and among free values, whose members stand in the order of their names, they are exactly those that
are the same (`Value.covers_both_iff`).  A value rises in this order whenever a member is added to
an object that is reached from the root through members alone (`Value.Gains`); what stands in an
array is compared as it is.
-/

set_option autoImplicit false
set_option relaxedAutoImplicit false

namespace EdgePolicy.Json

open EdgePolicy.Number (Binary64)

/-- A number without the sign of a zero. -/
def Number.plain : Number → Number
  | .integer value => .integer value
  | .real value => .real (if value.isZero then .zero false else value)

theorem Number.same_iff (a b : Number) : a.same b = true ↔ a.plain = b.plain := by
  have unsigned : (Binary64.zero false).isZero = true := rfl
  cases a <;> cases b <;> grind [Number.same, Binary64.same, Number.plain]

namespace Value

mutual

/-- A value without the signs of its zeros. -/
def plain : Value → Value
  | .number n => .number n.plain
  | .array items => .array (plainItems items)
  | .object members => .object (plainMembers members)
  | value => value

def plainItems : List Value → List Value
  | [] => []
  | item :: rest => item.plain :: plainItems rest

def plainMembers : List (String × Value) → List (String × Value)
  | [] => []
  | (name, value) :: rest => (name, value.plain) :: plainMembers rest

end

mutual

/-- A value with the members of its objects in the order of their names. -/
def sorted : Value → Value
  | .array items => .array (sortedItems items)
  | .object members => .record (sortedMembers members)
  | value => value

def sortedItems : List Value → List Value
  | [] => []
  | item :: rest => item.sorted :: sortedItems rest

def sortedMembers : List (String × Value) → List (String × Value)
  | [] => []
  | (name, value) :: rest => (name, value.sorted) :: sortedMembers rest

end

private theorem plainMembers_eq (members : List (String × Value)) :
    plainMembers members = members.map fun member => (member.1, member.2.plain) := by
  induction members with
  | nil => rfl
  | cons first rest ih => rw [plainMembers, ih, List.map_cons]

private theorem sortedMembers_eq (members : List (String × Value)) :
    sortedMembers members = members.map fun member => (member.1, member.2.sorted) := by
  induction members with
  | nil => rfl
  | cons first rest ih => rw [sortedMembers, ih, List.map_cons]

mutual

/-- Values are the same when only signs of zeros tell them apart. -/
theorem same_iff : ∀ a b : Value, a.same b = true ↔ a.plain = b.plain
  | .null, b => by cases b <;> simp [same, plain]
  | .bool _, b => by cases b <;> simp [same, plain]
  | .number n, b => by cases b <;> simp [same, plain, Number.same_iff]
  | .string _, b => by cases b <;> simp [same, plain]
  | .array items, b => by cases b <;> simp [same, plain, sameItems_iff items]
  | .object members, b => by cases b <;> simp [same, plain, sameMembers_iff members]

private theorem sameItems_iff : ∀ as bs :
    List Value, sameItems as bs = true ↔ plainItems as = plainItems bs
  | [], bs => by cases bs <;> simp [sameItems, plainItems]
  | a :: as, bs => by cases bs <;> simp [sameItems, plainItems, same_iff a, sameItems_iff as]

private theorem sameMembers_iff : ∀ as bs : List (String × Value),
    sameMembers as bs = true ↔ plainMembers as = plainMembers bs
  | [], bs => by cases bs <;> simp [sameMembers, plainMembers]
  | (name, a) :: as, bs => by
    cases bs <;> simp [sameMembers, plainMembers, same_iff a, sameMembers_iff as]

end

/-- The form that a value shares with those that differ from it in the order of members and the
signs of zeros alone. -/
def canonical (value : Value) : Value := value.plain.sorted

private theorem canonical_object (members : List (String × Value)) :
    (object members).canonical =
      .record (members.map fun member => (member.1, member.2.canonical)) := by
  rw [canonical, plain, sorted, plainMembers_eq, sortedMembers_eq, List.map_map]
  rfl

private theorem names_canonical (members : List (String × Value)) :
    (members.map fun member => (member.1, member.2.canonical)).map Prod.fst =
      members.map Prod.fst := by
  rw [List.map_map]
  rfl

mutual

private theorem canonical_eq_plain : ∀ value : Value, value.isSorted = true →
    value.canonical = value.plain
  | .null, _ | .bool _, _ | .number _, _ | .string _, _ => rfl
  | .array items, sorted => congrArg array (sortedItems_plainItems items sorted)
  | .object members, sorted => by
    obtain ⟨order, parts⟩ := (membersAreSorted_iff members).mp sorted
    have kept := map_canonical members parts
    have order' : (plainMembers members).Pairwise (·.1 < ·.1) := by
      rw [plainMembers_eq, List.pairwise_map]
      exact order
    rw [canonical_object, kept, Value.record, sortMembers_eq order', plain]

private theorem sortedItems_plainItems : ∀ items : List Value, itemsAreSorted items = true →
    sortedItems (plainItems items) = plainItems items
  | [], _ => rfl
  | item :: rest, sorted => by
    obtain ⟨head, tail⟩ := Bool.and_eq_true_iff.mp sorted
    rw [plainItems, sortedItems, sortedItems_plainItems rest tail]
    exact congrArg (· :: plainItems rest) (canonical_eq_plain item head)

private theorem map_canonical : ∀ members : List (String × Value),
    (∀ member ∈ members, member.2.isSorted = true) →
    (members.map fun member => (member.1, member.2.canonical)) = plainMembers members
  | [], _ => rfl
  | (name, value) :: rest, sorted => by
    obtain ⟨head, tail⟩ := List.forall_mem_cons.mp sorted
    rw [List.map_cons, map_canonical rest tail, canonical_eq_plain value head, plainMembers]

end

mutual

private theorem hasDistinctNames_of_isSorted : ∀ value : Value, value.isSorted = true →
    value.hasDistinctNames = true
  | .null, _ | .bool _, _ | .number _, _ | .string _, _ => rfl
  | .array items, sorted => itemsHaveDistinctNames_of_areSorted items sorted
  | .object members, sorted => by
    obtain ⟨order, parts⟩ := (membersAreSorted_iff members).mp sorted
    refine hasDistinctNames_object.mpr ⟨?_, membersHaveDistinctNames_of_areSorted members parts⟩
    exact List.pairwise_map.mpr (order.imp ne_of_lt)

private theorem itemsHaveDistinctNames_of_areSorted : ∀ items : List Value,
    itemsAreSorted items = true → itemsHaveDistinctNames items = true
  | [], _ => rfl
  | item :: rest, sorted => by
    obtain ⟨head, tail⟩ := Bool.and_eq_true_iff.mp sorted
    exact Bool.and_eq_true_iff.mpr
      ⟨hasDistinctNames_of_isSorted item head, itemsHaveDistinctNames_of_areSorted rest tail⟩

private theorem membersHaveDistinctNames_of_areSorted : ∀ members : List (String × Value),
    (∀ member ∈ members, member.2.isSorted = true) →
    ∀ member ∈ members, member.2.hasDistinctNames = true
  | [], _ => fun _ here => nomatch here
  | (name, value) :: rest, sorted => by
    obtain ⟨head, tail⟩ := List.forall_mem_cons.mp sorted
    exact List.forall_mem_cons.mpr
      ⟨hasDistinctNames_of_isSorted value head, membersHaveDistinctNames_of_areSorted rest tail⟩

end

private theorem record_congr {as bs : List (String × Value)} (distinct : (as.map Prod.fst).Nodup)
    (distinct' : (bs.map Prod.fst).Nodup) (agree : ∀ member, member ∈ as ↔ member ∈ bs) :
    Value.record as = Value.record bs := by
  have sorted := (sortMembers_sorted as).1
  have sorted' := (sortMembers_sorted bs).1
  have permuted : (sortMembers as).Perm (sortMembers bs) :=
    (List.perm_ext_iff_of_nodup (sorted.imp fun before => ne_of_apply_ne Prod.fst (ne_of_lt before))
      (sorted'.imp fun before => ne_of_apply_ne Prod.fst (ne_of_lt before))).mpr fun member => by
        rw [mem_sortMembers distinct, mem_sortMembers distinct', agree]
  exact congrArg object (permuted.eq_of_pairwise
    (fun _ _ _ _ before behind => absurd before (lt_asymm behind)) sorted sorted')

section Order

def isObject : Value → Bool
  | .object _ => true
  | _ => false

variable {a b c : Value} {held want : List (String × Value)}

private theorem isObject_of_plain (same : a.plain = b.plain) : a.isObject = b.isObject := by
  cases a <;> cases b <;> simp_all [plain, isObject]

private theorem covers_bare (bare : b.isObject = false) :
    a.covers b = true ↔ a.plain = b.plain := by
  rw [← same_iff]
  cases b with
  | object members => nomatch bare
  | _ => cases a <;> rfl

private theorem covers_object :
    a.covers (.object want) = true ↔ ∃ held, a = .object held ∧ coversMembers held want = true := by
  cases a <;> simp [covers, same]

private theorem object_covers :
    (object held).covers b = true ↔ ∃ want, b = .object want ∧ coversMembers held want = true := by
  cases b <;> simp [covers, same]

private theorem covers_trans_bare (bare : c.isObject = false) (first : a.covers b = true)
    (second : b.covers c = true) : a.covers c = true := by
  have same := (covers_bare bare).mp second
  have bare' := (isObject_of_plain same).trans bare
  exact (covers_bare bare).mpr (((covers_bare bare').mp first).trans same)

mutual

private theorem covers_trans : ∀ a b c : Value, a.covers b = true → b.covers c = true →
    a.covers c = true
  | a, b, .object want, first, second => by
    obtain ⟨middle, rfl, second⟩ := covers_object.mp second
    obtain ⟨held, rfl, first⟩ := covers_object.mp first
    rw [covers]
    exact coversMembers_trans held middle want first second
  | _, _, .null, first, second | _, _, .bool _, first, second | _, _, .number _, first, second
  | _, _, .string _, first, second | _, _, .array _, first, second =>
    covers_trans_bare rfl first second

private theorem coversMembers_trans : ∀ held middle want : List (String × Value),
    coversMembers held middle = true → coversMembers middle want = true →
    coversMembers held want = true
  | _, _, [], _, _ => rfl
  | held, middle, (name, wanted) :: rest, first, second => by
    rw [coversMembers_iff, List.forall_mem_cons] at second
    obtain ⟨⟨value, found, covers⟩, later⟩ := second
    obtain ⟨above, found', covers'⟩ :=
      coversMembers_iff.mp first (name, value) (mem_of_lookup found)
    have tail := coversMembers_trans held middle rest first (coversMembers_iff.mpr later)
    simp [coversMembers, found', covers_trans above value wanted covers' covers, tail]

end

private theorem exists_counterpart (distinct : (want.map Prod.fst).Nodup)
    (covers : coversMembers held want = true) (covers' : coversMembers want held = true)
    {member : String × Value} (here : member ∈ want) :
    ∃ value, (member.1, value) ∈ held ∧ value.covers member.2 = true ∧
      member.2.covers value = true := by
  obtain ⟨value, found, above⟩ := coversMembers_iff.mp covers member here
  have within := mem_of_lookup found
  obtain ⟨back, found', below⟩ := coversMembers_iff.mp covers' _ within
  obtain rfl := Option.some.inj ((lookup_of_nodup distinct here).symm.trans found')
  exact ⟨value, within, above, below⟩

mutual

private theorem covers_antisymm : ∀ a b :
    Value, a.hasDistinctNames = true → b.hasDistinctNames = true →
    a.covers b = true → b.covers a = true → a.canonical = b.canonical
  | .object held, b, distinct, distinct', covers, covers' => by
    obtain ⟨want, rfl, covers⟩ := object_covers.mp covers
    rw [Value.covers] at covers'
    obtain ⟨names, parts⟩ := hasDistinctNames_object.mp distinct
    obtain ⟨names', parts'⟩ := hasDistinctNames_object.mp distinct'
    have agree := members_antisymm held parts
    rw [canonical_object, canonical_object]
    refine record_congr ((names_canonical held).symm ▸ names)
      ((names_canonical want).symm ▸ names') fun member => ?_
    simp only [List.mem_map]
    -- A member and its counterpart of the same name cover each other, so the recursion applies.
    constructor
    · rintro ⟨⟨name, value⟩, here, rfl⟩
      obtain ⟨other, there, below, above⟩ := exists_counterpart names covers' covers here
      exact ⟨(name, other), there, by
        rw [agree _ here other (parts' _ there) above below]⟩
    · rintro ⟨⟨name, other⟩, there, rfl⟩
      obtain ⟨value, here, above, below⟩ := exists_counterpart names' covers covers' there
      exact ⟨(name, value), here, by
        rw [agree _ here other (parts' _ there) above below]⟩
  | .null, _, _, _, _, covers' | .bool _, _, _, _, _, covers' | .number _, _, _, _, _, covers'
  | .string _, _, _, _, _, covers' | .array _, _, _, _, _, covers' =>
    congrArg sorted ((covers_bare rfl).mp covers').symm

private theorem members_antisymm : ∀ members : List (String × Value),
    (∀ member ∈ members, member.2.hasDistinctNames = true) →
    ∀ member ∈ members, ∀ other : Value, other.hasDistinctNames = true →
      member.2.covers other = true → other.covers member.2 = true →
      member.2.canonical = other.canonical
  | [], _ => fun _ here => nomatch here
  | (name, value) :: rest, distinct => by
    obtain ⟨head, tail⟩ := List.forall_mem_cons.mp distinct
    exact List.forall_mem_cons.mpr
      ⟨fun other distinct' => covers_antisymm value other head distinct',
        members_antisymm rest tail⟩

end

/-- Among values whose members are in order, those that cover each other are the same. -/
theorem covers_both_iff (sorted : a.isSorted = true) (sorted' : b.isSorted = true) :
    a.covers b = true ∧ b.covers a = true ↔ a.same b = true := by
  have distinct := hasDistinctNames_of_isSorted a sorted
  have distinct' := hasDistinctNames_of_isSorted b sorted'
  constructor
  · rintro ⟨covers, covers'⟩
    have agree := covers_antisymm a b distinct distinct' covers covers'
    rw [canonical_eq_plain a sorted, canonical_eq_plain b sorted'] at agree
    exact (same_iff a b).mpr agree
  · intro same
    have same' : b.same a = true := (same_iff b a).mpr ((same_iff a b).mp same).symm
    exact ⟨covers_of_same a b distinct same, covers_of_same b a distinct' same'⟩

end Order

/-- One value is another with one more member, in an object reached from the root through members
alone.  The name is new where the names of the grown value are distinct. -/
inductive Gains : Value → Value → Prop
  | member (front back : List (String × Value)) (added : String × Value) :
      Gains (.object (front ++ back)) (.object (front ++ added :: back))
  | within (front back : List (String × Value)) (name : String) {old new : Value} :
      Gains old new →
      Gains (.object (front ++ (name, old) :: back)) (.object (front ++ (name, new) :: back))

theorem Gains.covers {old new : Value} (gains : Gains old new)
    (distinct : new.hasDistinctNames = true) :
    old.hasDistinctNames = true ∧ new.covers old = true := by
  induction gains with
  | member front back added =>
    obtain ⟨names, parts⟩ := hasDistinctNames_object.mp distinct
    have kept : (front ++ back).Sublist (front ++ added :: back) :=
      (List.sublist_cons_self added back).append_left front
    refine ⟨hasDistinctNames_object.mpr ⟨names.sublist (kept.map Prod.fst),
      fun member here => parts member (kept.subset here)⟩, ?_⟩
    rw [Value.covers]
    exact coversMembers_of_mem names fun member here =>
      ⟨member.2, kept.subset here, covers_self member.2 (parts member (kept.subset here))⟩
  | @within front back name old new _ ih =>
    obtain ⟨names, parts⟩ := hasDistinctNames_object.mp distinct
    obtain ⟨inner, covers⟩ := ih (parts (name, new) (by simp))
    -- Only the member that leads to the object with the new member has changed.
    have each : ∀ member ∈ front ++ (name, old) :: back, member = (name, old) ∨
        member ∈ front ++ (name, new) :: back := by
      intro member here
      simp only [List.mem_append, List.mem_cons] at here ⊢
      tauto
    constructor
    · refine hasDistinctNames_object.mpr ⟨by simpa using names, fun member here => ?_⟩
      rcases each member here with rfl | kept
      · exact inner
      · exact parts member kept
    · rw [Value.covers]
      refine coversMembers_of_mem names fun member here => ?_
      rcases each member here with rfl | kept
      · exact ⟨new, by simp, covers⟩
      · exact ⟨member.2, kept, covers_self member.2 (parts member kept)⟩

private theorem covers_of_gains {old new : Value} (gains : Relation.ReflTransGen Gains old new)
    (distinct : new.hasDistinctNames = true) :
    old.hasDistinctNames = true ∧ new.covers old = true := by
  induction gains with
  | refl => exact ⟨distinct, covers_self old distinct⟩
  | @tail middle new _ step ih =>
    obtain ⟨distinct', covers⟩ := step.covers distinct
    obtain ⟨distinct'', covers'⟩ := ih distinct'
    exact ⟨distinct'', covers_trans new middle old covers covers'⟩

/-- Covering is a partial order on values whose objects are maps: reflexive, transitive, and
antisymmetric up to what tells no values apart, the order of members and the signs of zeros; among
values whose members are in order, mutual covering is being the same.  Adding members to objects
reached through members alone leads up in this order. -/
theorem covers_partialOrder :
    (∀ a : Value, a.hasDistinctNames = true → a.covers a = true) ∧
      (∀ a b c : Value, a.covers b = true → b.covers c = true → a.covers c = true) ∧
      (∀ a b : Value, a.hasDistinctNames = true → b.hasDistinctNames = true →
        a.covers b = true → b.covers a = true → a.canonical = b.canonical) ∧
      (∀ a b : Value, a.isSorted = true → b.isSorted = true →
        (a.covers b = true ∧ b.covers a = true ↔ a.same b = true)) ∧
      ∀ a b : Value, a.hasDistinctNames = true → Relation.ReflTransGen Gains b a →
        a.covers b = true :=
  ⟨covers_self, covers_trans, covers_antisymm, fun _ _ => covers_both_iff,
    fun _ _ distinct gains => (covers_of_gains gains distinct).2⟩

/-- Parameters as they are asked for. -/
def askedParameters : Value :=
  .object [("overrides", .object [("enabled", .bool true)]),
    ("phases", .array [.string "http_ratelimit"])]

/-- The same parameters with what the platform adds, inside an object and beside it. -/
def heldParameters : Value :=
  .object [("overrides", .object [("action", .string "log"), ("enabled", .bool true)]),
    ("phases", .array [.string "http_ratelimit"]), ("ruleset", .string "current")]

private theorem gains_heldParameters : Relation.ReflTransGen Gains askedParameters heldParameters :=
  Relation.ReflTransGen.head (.within [] _ "overrides" (.member [] _ ("action", .string "log")))
    (.single (.member [_, _] [] ("ruleset", .string "current")))

/-- An object with a zero that has the given sign. -/
def zeroParameters (negative : Bool) : Value :=
  .object [("score", .number (.real (.zero negative))), ("window", .null)]

/-- The parameters of a rule cover those asked for and the empty object below them, and two objects
that differ in the sign of a zero cover each other. -/
theorem covers_partialOrder_sample :
    heldParameters.hasDistinctNames = true ∧
      Relation.ReflTransGen Gains askedParameters heldParameters ∧
      heldParameters.covers heldParameters = true ∧
      heldParameters.covers askedParameters = true ∧
      askedParameters.covers (.object []) = true ∧
      heldParameters.covers (.object []) = true ∧
      askedParameters.covers heldParameters = false ∧
      (zeroParameters true).canonical = (zeroParameters false).canonical ∧
      (zeroParameters true).same (zeroParameters false) = true := by
  obtain ⟨reflexive, transitive, antisymmetric, agreeing, grows⟩ := covers_partialOrder
  have distinct : heldParameters.hasDistinctNames = true := by decide +kernel
  have covers : heldParameters.covers askedParameters = true :=
    grows heldParameters askedParameters distinct gains_heldParameters
  have below : askedParameters.covers (.object []) = true := by decide +kernel
  have up : (zeroParameters true).covers (zeroParameters false) = true := by decide +kernel
  have down : (zeroParameters false).covers (zeroParameters true) = true := by decide +kernel
  exact ⟨distinct, gains_heldParameters, reflexive heldParameters distinct, covers, below,
    transitive heldParameters askedParameters (.object []) covers below, by decide +kernel,
    antisymmetric _ _ (by decide +kernel) (by decide +kernel) up down,
    (agreeing _ _ (by decide +kernel) (by decide +kernel)).mp ⟨up, down⟩⟩

end Value

end EdgePolicy.Json
