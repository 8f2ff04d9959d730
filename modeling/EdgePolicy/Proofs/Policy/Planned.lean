import Mathlib.Data.List.Perm.Basic
import EdgePolicy.Payload.Request
import EdgePolicy.Proofs.Except

/-
The rules that a request desires.

A request is about some categories (`Request.categories`) and desires one rule of each of them for
every host that it names (`Request.desired_categories`).  A custom request is about all keys: a key
that none of its rules has stands for a rule that must not exist.
-/

set_option autoImplicit false
set_option relaxedAutoImplicit false

namespace EdgePolicy

def CustomRule.key? (rule : CustomRule) : Option CustomKey :=
  rule.conditions.head?.bind fun first => CustomKey.ofField? first.field

/-- The categories that a request is about. -/
def Request.categories : Request → List Category
  | blacklist _ => [.blacklist]
  | whitelist _ => [.whitelist]
  | country _ => [.country]
  | knownBot _ => [.knownBot]
  | verifiedBot _ => [.verifiedBot]
  | custom _ => CustomKey.all.map .custom
  | cache _ => [.cache]
  | ddos _ => [.ddosOverride]
  | teardown _ => [.blacklist, .whitelist, .country, .cache]

section

variable {rule : PolicyRule} {desired : DesiredRule} {host : String} {rules : List DesiredRule}

theorem desired_eq_ok (made : rule.desired = .ok desired) :
    ∃ expression?, rule.expression? = .ok expression? ∧
      desired = ⟨rule.category, rule.domain, expression?.map fun expression =>
        ⟨rule.action, expression, true, rule.parameters, none⟩⟩ := by
  obtain ⟨expression?, written, made⟩ := bind_eq_ok.mp made
  exact ⟨expression?, written, (Except.ok.inj made).symm⟩

theorem only_eq_ok {rule : Except ConditionFault DesiredRule}
    (made : Request.only rule = .ok rules) : ∃ desired, rule = .ok desired ∧ rules = [desired] := by
  cases rule with
  | error fault => nomatch made
  | ok desired => exact ⟨desired, rfl, (Except.ok.inj made).symm⟩

end

namespace DesiredRule

variable {desired : DesiredRule} {host : String} {rules : List DesiredRule} {index : Nat}
  {seen : List CustomKey} {key : CustomKey} {rule : CustomRule} {customs : List CustomRule}

/-- The desired rule of a host in a category. -/
structure IsOf (desired : DesiredRule) (host : String) (category : Category) : Prop where
  domain : desired.domain = host
  category : desired.category = category

theorem isOf_of_desired {rule : PolicyRule} (made : rule.desired = .ok desired) :
    desired.IsOf rule.domain rule.category := by
  obtain ⟨expression?, -, rfl⟩ := desired_eq_ok made
  exact ⟨rfl, rfl⟩

private theorem customKey_eq_ok : customKey index rule = .ok key ↔ rule.key? = some key := by
  unfold customKey CustomRule.key?
  cases rule.conditions.head? with
  | none => exact ⟨nofun, nofun⟩
  | some first =>
    dsimp only [Option.bind_some]
    cases CustomKey.ofField? first.field with
    | none => exact ⟨nofun, nofun⟩
    | some other => simp

/-- The first custom rule has a new key, and the others are built with that key among those seen. -/
theorem customFrom_cons_eq_ok (made : customFrom host index seen (rule :: customs) = .ok rules) :
    ∃ key desired others, rule.key? = some key ∧ key ∉ seen ∧
      PolicyRule.desired ⟨.custom key, host, rule.action, Group.partition rule.conditions,
        rule.action.defaultParameters⟩ = .ok desired ∧
      customFrom host (index + 1) (key :: seen) customs = .ok others ∧
      rules = desired :: others := by
  unfold customFrom at made
  cases keyed : customKey index rule with
  | error fault => simp [keyed, bind, Except.bind, Except.mapError] at made
  | ok key =>
    simp only [keyed, bind, Except.bind, Except.mapError] at made
    split at made
    · cases made
    · next fresh =>
      cases built : PolicyRule.desired ⟨.custom key, host, rule.action,
          Group.partition rule.conditions, rule.action.defaultParameters⟩ with
      | error fault => simp [built] at made
      | ok desired =>
        cases more : customFrom host (index + 1) (key :: seen) customs with
        | error fault => simp [built, more] at made
        | ok others =>
          simp only [built, more] at made
          exact ⟨key, desired, others, customKey_eq_ok.mp keyed, fresh, built, more,
            (Except.ok.inj made).symm⟩

private theorem unseen_perm (fresh : key ∉ seen) :
    (key :: CustomKey.all.filter (· ∉ key :: seen)).Perm (CustomKey.all.filter (· ∉ seen)) := by
  have distinct : CustomKey.all.Nodup := by decide
  have every : ∀ key : CustomKey, key ∈ CustomKey.all := by
    intro key
    cases key <;> decide
  refine (List.perm_ext_iff_of_nodup ?_ (distinct.filter _)).mpr fun other => ?_
  · exact List.nodup_cons.mpr ⟨by simp, distinct.filter _⟩
  · by_cases same : other = key
    · subst same
      simp [fresh, every]
    · simp [same]

private theorem customFrom_categories (made : customFrom host index seen customs = .ok rules) :
    (∀ desired ∈ rules, desired.domain = host) ∧
      (rules.map (·.category)).Perm ((CustomKey.all.filter (· ∉ seen)).map .custom) := by
  induction customs generalizing index seen rules with
  | nil =>
    obtain rfl := Except.ok.inj made
    refine ⟨?_, .of_eq ?_⟩
    · exact List.forall_mem_map.mpr fun key _ => rfl
    · rw [List.map_map]
      rfl
  | cons rule rest ih =>
    obtain ⟨key, desired, others, -, fresh, built, more, rfl⟩ := customFrom_cons_eq_ok made
    obtain ⟨domains, categories⟩ := ih more
    have first := isOf_of_desired built
    refine ⟨List.forall_mem_cons.mpr ⟨first.domain, domains⟩, ?_⟩
    rw [List.map_cons, first.category]
    exact (categories.cons _).trans ((unseen_perm fresh).map Category.custom)

end DesiredRule

namespace Request

variable {request : Request} {host : String} {rules : List DesiredRule}

theorem nodup_categories (request : Request) : request.categories.Nodup := by
  cases request <;> simp [categories, CustomKey.all]

/-- For each host a request desires one rule of each category that it is about. -/
theorem desired_categories (made : request.desired host = .ok rules) :
    (∀ desired ∈ rules, desired.domain = host) ∧
      (rules.map (·.category)).Perm request.categories := by
  have alone : ∀ {desired : DesiredRule} {category : Category}, desired.IsOf host category →
      (∀ desired' ∈ [desired], desired'.domain = host) ∧
        ([desired].map (·.category)).Perm [category] := fun isOf =>
    ⟨List.forall_mem_singleton.mpr isOf.domain, .of_eq (congrArg (fun c => [c]) isOf.category)⟩
  cases request with
  | blacklist request | country request | cache request | ddos request =>
    obtain ⟨desired, built, rfl⟩ := only_eq_ok made
    exact alone (DesiredRule.isOf_of_desired built)
  | whitelist request =>
    obtain ⟨desired, built, rfl⟩ := only_eq_ok made
    obtain ⟨rule, ruled, rfl⟩ := map_eq_ok.mp built
    have isOf := DesiredRule.isOf_of_desired ruled
    exact alone ⟨isOf.domain, isOf.category⟩
  | knownBot request =>
    obtain ⟨desired, built, rfl⟩ := only_eq_ok made
    unfold DesiredRule.knownBot at built
    split at built
    · obtain rfl := Except.ok.inj built
      exact alone ⟨rfl, rfl⟩
    · exact alone (DesiredRule.isOf_of_desired built)
  | verifiedBot request =>
    obtain ⟨desired, built, rfl⟩ := only_eq_ok made
    unfold DesiredRule.verifiedBot at built
    split at built
    · obtain rfl := Except.ok.inj built
      exact alone ⟨rfl, rfl⟩
    · split at built
      · obtain rfl := Except.ok.inj built
        exact alone ⟨rfl, rfl⟩
      · exact alone (DesiredRule.isOf_of_desired built)
  | custom request =>
    obtain ⟨domains, categories⟩ := DesiredRule.customFrom_categories made
    exact ⟨domains, categories⟩
  | teardown request =>
    obtain rfl := Except.ok.inj made
    exact ⟨List.forall_mem_map.mpr fun category _ => rfl, .refl _⟩

end Request

end EdgePolicy
