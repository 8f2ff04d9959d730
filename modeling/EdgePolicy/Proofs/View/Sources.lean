import EdgePolicy.Proofs.Condition.Groups
import EdgePolicy.Proofs.Policy.Settings
import EdgePolicy.Proofs.View.Applied

/-
The custom and cache rules of requests.

Each is made from a custom rule or from cache settings: that gives its action, its parameters and
the conditions that its expression is compiled from.  `MadeFrom` says so of the rules under a tag,
and `sourceTopic` follows it through requests.  An entry leaves a rule alone that accepts its body;
such a rule was made before from the same kind of source, and among those accepting means equal
(`MadeFrom.of_effect`).
-/

set_option autoImplicit false
set_option relaxedAutoImplicit false

namespace EdgePolicy

/-- The parameters of a cache rule with some settings. -/
def CacheSettings.parameters (settings : CacheSettings) : CacheParameters :=
  .of settings.cache settings.browser.setting settings.edge.setting

/-- What a custom or cache rule is made from. -/
inductive RuleSource where
  | custom (rule : CustomRule)
  | cache (settings : CacheSettings)

namespace RuleSource

def action : RuleSource → Action
  | custom rule => rule.action
  | cache _ => .setCacheSettings

def conditions : RuleSource → List Condition
  | custom rule => rule.conditions
  | cache settings => settings.conditions

def parameters : RuleSource → Option Json.Value
  | custom rule => rule.action.defaultParameters
  | cache settings => some settings.parameters.free

/-- The body of a rule for a host with an expression. -/
def body (source : RuleSource) (expression : String) : DesiredBody :=
  ⟨source.action, expression, true, source.parameters, none⟩

/-- The rule of a category can be made from a source. -/
inductive IsFor : Category → RuleSource → Prop
  | custom {rule : CustomRule} {key : CustomKey} (keyed : rule.key? = some key) :
      IsFor (.custom key) (custom rule)
  | cache {settings : CacheSettings} (complete : settings.parameters.IsComplete) :
      IsFor .cache (cache settings)

private theorem parameters_of_accepts {category : Category} {old source : RuleSource}
    {expression : String} (was : old.IsFor category) (now : source.IsFor category)
    (same : old.action = source.action)
    (accepts : (source.body expression).acceptsParameters old.parameters = true) :
    old.parameters = source.parameters := by
  cases was with
  | custom keyed =>
    cases now with
    | custom keyed' => exact congrArg Action.defaultParameters same
  | cache complete =>
    cases now with
    | cache complete' =>
      exact congrArg (some ∘ CacheParameters.free)
        (CacheParameters.eq_of_covers complete complete' accepts)

end RuleSource

/-- The rules under the tag of a category and host: one that was made from a source, or none. -/
def MadeFrom (category : Category) (host : String) : Option RuleSource → List RemoteRule → Prop
  | none, rules => rules = []
  | some source, rules => source.IsFor category ∧ (∀ c ∈ source.conditions, Expression.Tame c) ∧
      ∃ rule, rules = [rule] ∧ rule.action = source.action ∧ rule.parameters = source.parameters ∧
        Expression.compile (Group.partition source.conditions) host = .ok rule.expression

def DesiredRule.Makes (host : String) : Option RuleSource → DesiredRule → Prop
  | none, desired => desired.body = none
  | some source, desired => ∃ expression,
      Expression.compile (Group.partition source.conditions) host = .ok expression ∧
        desired.body = some (source.body expression)

section

variable {category : Category} {host zoneId : String} {old want : Option RuleSource}
  {desired : DesiredRule} {before after : Store} {outcome : Outcome}

/-- An entry leaves a rule that is made from what is wanted, if the rule before it was made from
what was wanted then. -/
theorem MadeFrom.of_effect (effect : desired.Effect zoneId before after outcome)
    (was : MadeFrom category host old (desired.held zoneId before))
    (makes : desired.Makes host want)
    (sound : ∀ source, want = some source →
      source.IsFor category ∧ ∀ c ∈ source.conditions, Expression.Tame c) :
    MadeFrom category host want (desired.held zoneId after) := by
  cases want with
  | none =>
    have unwanted : desired.body = none := makes
    cases effect with
    | unchanged rule? containers held accepted =>
      cases rule? with
      | none => exact (DesiredRule.held_of_containers containers).trans held
      | some rule =>
        obtain ⟨body, wanted, -⟩ := accepted
        cases unwanted.symm.trans wanted
    | created body id position wanted held becomes => cases unwanted.symm.trans wanted
    | patched body previous wanted held differs becomes => cases unwanted.symm.trans wanted
    | deleted previous _ held becomes => exact becomes
  | some source =>
    obtain ⟨isFor, tame⟩ := sound source rfl
    obtain ⟨expression, compiled, bodied⟩ := makes
    refine ⟨isFor, tame, ?_⟩
    cases effect with
    | unchanged rule? containers held accepted =>
      cases rule? with
      | none => cases bodied.symm.trans accepted
      | some rule =>
        rw [DesiredRule.held_of_containers containers, held]
        rw [held] at was
        obtain ⟨body, wanted, matched⟩ := accepted
        obtain rfl := Option.some.inj (bodied.symm.trans wanted)
        simp only [DesiredBody.matches, Bool.and_eq_true, beq_iff_eq] at matched
        obtain ⟨⟨⟨⟨written, acts⟩, -⟩, accepts⟩, -⟩ := matched
        cases old with
        | none => cases was
        | some source' =>
          obtain ⟨isFor', -, rule', alone, acts', parameters', -⟩ := was
          obtain rfl : rule = rule' := by simpa using alone
          rw [parameters'] at accepts
          refine ⟨rule, rfl, acts, ?_, compiled.trans (congrArg Except.ok written.symm)⟩
          rw [parameters',
            RuleSource.parameters_of_accepts isFor' isFor (acts'.symm.trans acts) accepts]
    | created body id position wanted held becomes =>
      obtain rfl := Option.some.inj (bodied.symm.trans wanted)
      exact ⟨_, becomes, rfl, rfl, compiled⟩
    | patched body previous wanted held differs becomes =>
      obtain rfl := Option.some.inj (bodied.symm.trans wanted)
      exact ⟨_, becomes, rfl, rfl, compiled⟩
    | deleted previous unwanted held becomes => cases unwanted.symm.trans bodied

end

section Desired

variable {category : Category} {host : String} {source : RuleSource} {desired : DesiredRule}

private theorem makes_of_desired (isFor : source.IsFor category)
    (made : PolicyRule.desired ⟨category, host, source.action, Group.partition source.conditions,
      source.parameters⟩ = .ok desired) : desired.Makes host (some source) := by
  obtain ⟨expression?, written, rfl⟩ := desired_eq_ok made
  have compiles : (Expression.compile (Group.partition source.conditions) host).map some =
      .ok expression? := by
    cases isFor with
    | cache complete => exact written
    | @custom rule key keyed =>
      have nonempty : rule.conditions ≠ [] := by
        intro none
        simp [CustomRule.key?, none] at keyed
      have filled : (Group.partition rule.conditions).isEmpty = false :=
        List.isEmpty_eq_false_iff.mpr (Group.partition_ne_nil nonempty)
      simp only [PolicyRule.expression?, RuleSource.conditions, filled] at written
      exact written
  obtain ⟨expression, compiled, rfl⟩ := map_eq_ok.mp compiles
  exact ⟨expression, compiled, rfl⟩

def CustomRule.keyed? (rules : List CustomRule) (key : CustomKey) : Option CustomRule :=
  rules.find? (·.key? == some key)

private theorem makes_of_customFrom {index : Nat} {seen : List CustomKey}
    {customs : List CustomRule} {rules : List DesiredRule}
    (made : DesiredRule.customFrom host index seen customs = .ok rules) {key : CustomKey}
    (fresh : key ∉ seen) : ∃ desired ∈ rules, desired.category = .custom key ∧
      desired.Makes host ((CustomRule.keyed? customs key).map .custom) := by
  induction customs generalizing index seen rules with
  | nil =>
    obtain rfl := Except.ok.inj made
    have every : key ∈ CustomKey.all := by
      cases key <;> decide
    have listed : key ∈ CustomKey.all.filter (· ∉ seen) :=
      List.mem_filter.mpr ⟨every, decide_eq_true fresh⟩
    exact ⟨.absent (.custom key) host, List.mem_map_of_mem listed, rfl, rfl⟩
  | cons rule rest ih =>
    obtain ⟨other, desired, others, keyed, -, built, more, rfl⟩ :=
      DesiredRule.customFrom_cons_eq_ok made
    unfold CustomRule.keyed?
    rw [List.find?_cons, keyed]
    by_cases same : other = key
    · subst same
      simp only [beq_self_eq_true]
      have source : (RuleSource.custom rule).IsFor (.custom other) := .custom keyed
      exact ⟨desired, List.mem_cons_self, (DesiredRule.isOf_of_desired built).category,
        makes_of_desired source built⟩
    · have differ : (some other == some key) = false := by simpa using same
      simp only [differ]
      have fresh' : key ∉ other :: seen := by
        simp [Ne.symm same, fresh]
      obtain ⟨desired', member, about, makes⟩ := ih more fresh'
      exact ⟨desired', List.mem_cons_of_mem desired member, about, makes⟩

end Desired

namespace Request

/-- The custom rules that a request sends. -/
def customRules? : Request → Option (List CustomRule)
  | custom request => some request.rules
  | _ => none

/-- The cache settings that a request sends; a removal takes them away. -/
def cacheSettings? : Request → Option (Option CacheSettings)
  | cache request => some (some request.settings)
  | teardown _ => some none
  | _ => none

def source? (category : Category) (request : Request) : Option (Option RuleSource) :=
  match category with
  | .custom key => request.customRules?.map fun rules => (CustomRule.keyed? rules key).map .custom
  | .cache => request.cacheSettings?.map (Option.map .cache)
  | _ => none

/-- The addresses that the conditions of custom and cache rules list are tame. -/
def IsTame : Request → Prop
  | custom request => ∀ rule ∈ request.rules, ∀ c ∈ rule.conditions, Expression.Tame c
  | cache request => ∀ c ∈ request.settings.conditions, Expression.Tame c
  | _ => True

/-- The seconds of cache settings are words. -/
def FitsWords : Request → Prop
  | cache request => ∀ ttl ∈ [request.settings.browser, request.settings.edge], ∀ seconds,
      ttl.seconds = some seconds → seconds ≤ Text.maxWord64
  | _ => True

end Request

def Category.HasSource : Category → Prop
  | .custom _ | .cache => True
  | _ => False

/-- The custom and cache rules that requests want. -/
def sourceTopic : Topic (Option RuleSource) where
  Includes := Category.HasSource
  asks := Request.source?
  Bears := MadeFrom
  labelled := by
    rintro _ included rfl
    exact included

section Served

variable {request : Request} {host : String} {rules : List DesiredRule}

private theorem complete_of_present {ttl : TtlRequest} (present : ttl.lacksSeconds = false)
    (fits : ∀ seconds, ttl.seconds = some seconds → seconds ≤ Text.maxWord64) :
    ttl.setting.IsComplete := by
  obtain ⟨mode, seconds⟩ := ttl
  unfold TtlRequest.setting TtlSetting.of
  by_cases overrides : mode = TtlSetting.overrideOrigin
  · subst overrides
    refine ⟨?_, fun n given => fits n (by simpa using given)⟩
    cases seconds with
    | none => simp [TtlRequest.lacksSeconds] at present
    | some n => simp
  · simp only [overrides, if_false]
    exact ⟨by simp [overrides], by rintro n ⟨⟩⟩

theorem complete_of_valid {request : CacheRequest} (valid : request.validate = .ok ())
    (fits : (Request.cache request).FitsWords) : request.settings.parameters.IsComplete := by
  obtain ⟨name, zone, cache, browser, edge, conditions⟩ := request
  unfold CacheSettings.parameters CacheParameters.of
  cases cache with
  | false => exact .off
  | true =>
    unfold CacheRequest.validate at valid
    split at valid
    · cases valid
    · simp only [Bool.not_true, Bool.false_eq_true, if_false] at valid
      split at valid
      · cases valid
      · next present =>
        have complete : ∀ ttl ∈ [browser, edge], ttl.setting.IsComplete := fun ttl listed =>
          complete_of_present (by simpa using List.find?_eq_none.mp present ttl listed)
            (fits ttl listed)
        exact .on (complete browser (by simp)) (complete edge (by simp))

/-- The entries of a request are one for each category, so what each of them brings about is not
undone by another one. -/
private theorem serves_of_makes (made : request.desired host = .ok rules)
    (makes : ∀ category : Category, category.HasSource → ∀ want,
      request.source? category = some want →
        (∃ desired ∈ rules, desired.category = category ∧ desired.Makes host want) ∧
        ∀ source, want = some source →
          source.IsFor category ∧ ∀ c ∈ source.conditions, Expression.Tame c)
    (silent : ∀ category : Category, category.HasSource → request.source? category = none →
      category ∉ request.categories) : sourceTopic.Serves request host rules := by
  obtain ⟨domains, categories⟩ := Request.desired_categories made
  refine ⟨domains, fun category included spoken desired member same => ?_, ?_⟩
  · exact silent category included spoken
      (categories.subset (same ▸ List.mem_map_of_mem member))
  · intro category included want spoken zoneId outcomes before after old stages was
    obtain ⟨⟨desired, member, rfl, body⟩, sound⟩ := makes category included want spoken
    obtain rfl := domains desired member
    obtain ⟨front, back, rfl⟩ := List.append_of_mem member
    have others : ∀ entry ∈ front ++ back, entry.tag ≠ desired.tag := by
      intro entry listed same
      have distinct := categories.symm.nodup request.nodup_categories
      obtain ⟨about, -⟩ := Category.tag_injective (sourceTopic.labelled _ included) same.symm
      rw [List.map_append, List.map_cons, List.nodup_middle, ← List.map_append] at distinct
      exact (List.nodup_cons.mp distinct).1 (about ▸ List.mem_map_of_mem listed)
    obtain ⟨before', after', outcome, held, effect, held'⟩ := stages.effect others
    have was' : MadeFrom desired.category desired.domain old (desired.held zoneId before') :=
      held.symm ▸ was
    have now := MadeFrom.of_effect effect was' body sound
    rw [← held'] at now
    exact now

private theorem source?_of_mem_categories {category : Category} (included : category.HasSource)
    (member : category ∈ request.categories) : request.source? category ≠ none := by
  cases category with
  | custom key =>
    cases request with
    | custom request => rintro ⟨⟩
    | _ => simp [Request.categories] at member
  | cache =>
    cases request with
    | cache request | teardown request => rintro ⟨⟩
    | _ => simp [Request.categories] at member
  | _ => exact included.elim

theorem servedBy_sourceTopic (tame : request.IsTame) (fits : request.FitsWords) :
    sourceTopic.ServedBy request := by
  intro valid target named rules made
  refine serves_of_makes made ?_ ?_
  · intro category included want spoken
    cases category with
    | custom key =>
      cases request with
      | custom request =>
        obtain rfl := Option.some.inj spoken
        refine ⟨makes_of_customFrom made List.not_mem_nil, fun source found => ?_⟩
        obtain ⟨rule, keyed, rfl⟩ := Option.map_eq_some_iff.mp found
        have key := List.find?_some keyed
        exact ⟨.custom (by simpa using key), tame rule (List.mem_of_find?_eq_some keyed)⟩
      | _ => cases spoken
    | cache =>
      cases request with
      | cache request =>
        obtain rfl := Option.some.inj spoken
        obtain ⟨desired, built, rfl⟩ := only_eq_ok made
        have source : (RuleSource.cache request.settings).IsFor .cache :=
          .cache (complete_of_valid valid fits)
        refine ⟨⟨desired, List.mem_singleton_self _, (DesiredRule.isOf_of_desired built).category,
          makes_of_desired source built⟩, ?_⟩
        rintro _ ⟨⟩
        exact ⟨source, tame⟩
      | teardown request =>
        obtain rfl := Option.some.inj spoken
        obtain rfl := Except.ok.inj made
        refine ⟨⟨.absent .cache target.name, by simp [DesiredRule.teardown], rfl, rfl⟩, ?_⟩
        rintro _ ⟨⟩
      | _ => cases spoken
    | _ => exact included.elim
  · exact fun category included spoken listed => source?_of_mem_categories included listed spoken

end Served

end EdgePolicy
