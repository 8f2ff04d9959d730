import EdgePolicy.Proofs.View.Sources
import EdgePolicy.Proofs.View.Waf

/-
The view of custom rules shows what the rules were made from.

The view keeps, host by host, the entries of its rules in their order (`CustomView.lookup_foldl`).
A rule that was made from a custom rule for a host has an entry under that host, and it shows the
conditions as an expression knows them (`reading_of_compile`).
-/

set_option autoImplicit false
set_option relaxedAutoImplicit false

namespace EdgePolicy

open Json (insertMember)

section Conditions

/-- A condition as an expression knows it: sets are items, bot flags are flags, only a header
condition has a name, and the path of a catalogued field is that field. -/
def Condition.shown (c : Condition) : Condition := c.readBack.joined c.join

def Condition.shownAll (conditions : List Condition) : List Condition :=
  (Group.flatten (Group.partition conditions)).map Condition.shown

private theorem joins_map_readBack (leading : Join) (conditions : List Condition) :
    Group.joins leading (conditions.map Condition.readBack) =
      (Group.joins leading conditions).map Condition.shown := by
  cases conditions with
  | nil => rfl
  | cons first rest =>
    simp only [Group.joins, List.map_cons, List.map_map]
    rfl

private theorem conditions_readBackGroup (host : String) (groups : List Group) :
    (⟨host, Group.canonical (groups.map Expression.readBackGroup), []⟩ : Decompiled).conditions =
      (Group.flatten groups).map Condition.shown := by
  have each : (Group.canonical (groups.map Expression.readBackGroup)).map (·.conditions) =
      (Group.canonical groups).map fun group => group.conditions.map Condition.shown := by
    apply List.ext_getElem?
    intro index
    simp only [Group.canonical, List.getElem?_map, List.getElem?_mapIdx, Option.map_map]
    congr 1
    funext group
    exact joins_map_readBack (Group.leadingJoin index) group.conditions
  unfold Decompiled.conditions Group.flatten
  rw [Group.canonical_canonical, List.map_flatMap, List.flatMap_def, each, ← List.flatMap_def]

/-- A rule that was compiled from conditions reads as those conditions. -/
theorem reading_of_compile {rule : RemoteRule} {host : String} {conditions : List Condition}
    (compiled : Expression.compile (Group.partition conditions) host = .ok rule.expression)
    (tame : ∀ c ∈ conditions, Expression.Tame c) :
    ∃ decompiled, rule.reading = (some decompiled, []) ∧ decompiled.host = host ∧
      decompiled.skipped = [] ∧ decompiled.conditions = Condition.shownAll conditions := by
  have read := Expression.decompile_of_compile compiled fun group member c listed => by
    obtain ⟨original, inList, join, rfl⟩ := Group.mem_partition member listed
    exact tame original inList
  refine ⟨_, ?_, rfl, rfl, conditions_readBackGroup host _⟩
  unfold RemoteRule.reading
  rw [read]
  rfl

end Conditions

section Borne

variable {rules : List RemoteRule} {want : Category → String → Option RuleSource}
  {category : Category} {rule : RemoteRule} {host : String}

/-- The rules with the tags of a category were made from what is wanted, and no others. -/
def MadeAs (want : Category → String → Option RuleSource) (rules : List RemoteRule)
    (category : Category) : Prop :=
  ∀ host, MadeFrom category host (want category host) (rules.filter (·.tag == category.tag host))

theorem RemoteRule.eq_alone_iff {tag : String} {only : RemoteRule}
    (alone : rules.filter (·.tag == tag) = [only]) : rule ∈ rules ∧ rule.tag = tag ↔ rule = only := by
  rw [← List.mem_singleton (a := rule) (b := only), ← alone, List.mem_filter, beq_iff_eq]

theorem MadeAs.source (made : MadeAs want rules category) (member : rule ∈ rules)
    (tag : rule.tag = category.tag host) : ∃ source, want category host = some source ∧
      source.IsFor category ∧ rule.action = source.action ∧
      rule.parameters = source.parameters ∧ ∃ decompiled, rule.reading = (some decompiled, []) ∧
        decompiled.host = host ∧ decompiled.skipped = [] ∧
        decompiled.conditions = Condition.shownAll source.conditions := by
  have held := made host
  cases wanted : want category host with
  | none =>
    rw [wanted] at held
    exact absurd (beq_iff_eq.mpr tag) (List.filter_eq_nil_iff.mp held rule member)
  | some source =>
    rw [wanted] at held
    obtain ⟨isFor, tame, only, alone, action, parameters, compiled⟩ := held
    obtain rfl := (RemoteRule.eq_alone_iff alone).mp ⟨member, tag⟩
    exact ⟨source, rfl, isFor, action, parameters, reading_of_compile compiled tame⟩

theorem MadeAs.present (made : MadeAs want rules category) {source : RuleSource}
    (wanted : want category host = some source) :
    ∃ rule ∈ rules, rule.tag = category.tag host ∧ host ≠ "" := by
  have held := made host
  rw [wanted] at held
  obtain ⟨-, -, rule, alone, -, -, compiled⟩ := held
  obtain ⟨member, tag⟩ := (RemoteRule.eq_alone_iff alone).mpr rfl
  refine ⟨rule, member, tag, ?_⟩
  rintro rfl
  exact nomatch compiled

theorem RemoteRule.tag_of_category? (categorized : rule.category? = some category) :
    ∃ domain, rule.tag = category.tag domain := by
  obtain ⟨⟨about, domain⟩, parsed, rfl⟩ := Option.map_eq_some_iff.mp categorized
  exact ⟨domain, (Category.tag_of_parseTag? parsed).symm⟩

theorem RemoteRule.category?_of_tag (labelled : category ≠ .ddosOverride) (named : host ≠ "")
    (tag : rule.tag = category.tag host) : rule.category? = some category := by
  unfold category?
  rw [tag, Category.parseTag?_tag labelled named, Option.map_some]

theorem MadeAs.tag_of_reading (made : MadeAs want rules category) (member : rule ∈ rules)
    (categorized : rule.category? = some category) {decompiled : Decompiled}
    {listed : List UnreadableRule} (reading : rule.reading = (some decompiled, listed)) :
    rule.tag = category.tag decompiled.host ∧ decompiled.host ≠ "" := by
  obtain ⟨domain, tag⟩ := RemoteRule.tag_of_category? categorized
  obtain ⟨source, wanted, -, -, -, decompiled', read, rfl, -⟩ := made.source member tag
  cases reading.symm.trans read
  obtain ⟨_, _, _, filled⟩ := made.present wanted
  exact ⟨tag, filled⟩

theorem MadeAs.single (made : MadeAs want rules category) (host : String) :
    (rules.filter (·.tag == category.tag host)).length ≤ 1 := by
  have held := made host
  cases wanted : want category host with
  | none =>
    rw [wanted] at held
    rw [show rules.filter _ = [] from held]
    exact Nat.zero_le 1
  | some source =>
    rw [wanted] at held
    obtain ⟨-, -, rule, alone, -⟩ := held
    rw [alone, List.length_singleton]

end Borne

/-- What a view shows of a custom rule under a key. -/
def CustomRule.shown (rule : CustomRule) (key : CustomKey) : CustomRuleView :=
  ⟨key, rule.action, Condition.shownAll rule.conditions, []⟩

/-- What a view shows of a custom rule, under the field of its first condition. -/
def CustomRule.shown? (rule : CustomRule) : Option CustomRuleView := rule.key?.map rule.shown

namespace CustomView

variable {rules : List RemoteRule} {rule : RemoteRule} {host : String}

def entryOf? (host : String) (rule : RemoteRule) : Option CustomRuleView :=
  match rule.category?, rule.reading with
  | some (.custom key), (some decompiled, _) =>
    if decompiled.host = host then
      some ⟨key, rule.action, decompiled.conditions, decompiled.skipped⟩
    else none
  | _, _ => none

theorem lookup_add (view : CustomView) (rule : RemoteRule) (host : String) :
    (view.add rule).rules.lookup host = match entryOf? host rule with
      | some shown => some ((view.rules.lookup host).getD [] ++ [shown])
      | none => view.rules.lookup host := by
  unfold add entryOf?
  rcases rule.category? with _ | category
  · rfl
  · cases category with
    | custom key =>
      rcases rule.reading with ⟨_ | decompiled, listed⟩
      · rfl
      · simp only [lookup_insertMember]
        by_cases same : host = decompiled.host
        · subst same
          simp
        · simp [same, Ne.symm same]
    | _ => rfl

/-- A view keeps the entries of a host in the order of the rules. -/
theorem lookup_foldl (view : CustomView) (rules : List RemoteRule) (host : String) :
    (rules.foldl add view).rules.lookup host =
      if rules.filterMap (entryOf? host) = [] then view.rules.lookup host
      else some ((view.rules.lookup host).getD [] ++ rules.filterMap (entryOf? host)) := by
  induction rules generalizing view with
  | nil => rfl
  | cons first rest ih =>
    rw [List.foldl_cons, ih, lookup_add]
    cases added : entryOf? host first with
    | none => simp [added]
    | some shown =>
      by_cases more : rest.filterMap (entryOf? host) = [] <;> simp [added, more]

theorem skipped_add (view : CustomView)
    (read : ∀ key, rule.category? = some (.custom key) → rule.reading.1 ≠ none) :
    (view.add rule).skipped = view.skipped := by
  unfold add
  rcases categorized : rule.category? with _ | category
  · rfl
  · cases category with
    | custom key =>
      rcases reading : rule.reading with ⟨_ | decompiled, listed⟩
      · exact absurd (congrArg Prod.fst reading) (read key categorized)
      · rfl
    | _ => rfl

section Made

variable {want : Category → String → Option RuleSource}
  (made : ∀ key, MadeAs want rules (.custom key))

include made

theorem entryOf?_eq_some (member : rule ∈ rules) {shown : CustomRuleView} :
    entryOf? host rule = some shown ↔ rule.tag = (Category.custom shown.key).tag host ∧ host ≠ "" ∧
      ∃ custom, want (.custom shown.key) host = some (.custom custom) ∧
        shown = custom.shown shown.key := by
  constructor
  · intro entered
    unfold entryOf? at entered
    split at entered
    · next key decompiled listed categorized reading =>
      split at entered
      · next named =>
        obtain rfl := Option.some.inj entered
        subst named
        obtain ⟨tag, filled⟩ := (made key).tag_of_reading member categorized reading
        obtain ⟨source, wanted, isFor, action, -, decompiled', read, -, skipped, conditions⟩ :=
          (made key).source member tag
        cases reading.symm.trans read
        cases isFor with
        | @custom rule' _ keyed =>
          refine ⟨tag, filled, rule', wanted, ?_⟩
          rw [CustomRule.shown, action, skipped, conditions]
          rfl
      · cases entered
    · cases entered
  · rintro ⟨tag, named, custom, wanted, whole⟩
    have categorized := RemoteRule.category?_of_tag (by rintro ⟨⟩) named tag
    obtain ⟨source, wanted', -, action, -, decompiled, read, host', skipped, conditions⟩ :=
      (made shown.key).source member tag
    obtain rfl := Option.some.inj (wanted.symm.trans wanted')
    unfold entryOf?
    rw [categorized, read]
    simp only [host', if_true]
    rw [whole, action, skipped, conditions]
    rfl

private theorem mem_entries {shown : CustomRuleView} : shown ∈ rules.filterMap (entryOf? host) ↔
    ∃ custom, want (.custom shown.key) host = some (.custom custom) ∧
      shown = custom.shown shown.key := by
  rw [List.mem_filterMap]
  constructor
  · rintro ⟨rule, member, entered⟩
    exact ((entryOf?_eq_some made member).mp entered).2.2
  · rintro ⟨custom, wanted, whole⟩
    obtain ⟨rule, member, tag, named⟩ := (made shown.key).present wanted
    exact ⟨rule, member, (entryOf?_eq_some made member).mpr ⟨tag, named, custom, wanted, whole⟩⟩

private theorem nodup_entries : (rules.filterMap (entryOf? host)).Nodup := by
  have apart : rules.Pairwise fun one other => ∀ key : CustomKey,
      ¬ (one.tag = (Category.custom key).tag host ∧ other.tag = (Category.custom key).tag host) := by
    refine List.pairwise_iff_forall_sublist.mpr fun {one other} both key same => ?_
    have few := (both.filter (·.tag == (Category.custom key).tag host)).length_le
    have single := (made key).single host
    simp only [List.filter_cons, same.1, same.2, beq_self_eq_true, if_true, List.filter_nil,
      List.length_cons, List.length_nil] at few
    omega
  refine (List.Pairwise.and_mem.mp apart).filterMap _ ?_
  rintro one other ⟨inRules, inRules', apart⟩ shown entered shown' entered' rfl
  exact apart shown.key ⟨((entryOf?_eq_some made inRules).mp entered).1,
    ((entryOf?_eq_some made inRules').mp entered').1⟩

theorem ofRules_shown : (ofRules rules).skipped = [] ∧ ∀ host, ∃ listed : List CustomRuleView,
    (ofRules rules).rules.lookup host = (if listed = [] then none else some listed) ∧
      listed.Nodup ∧ ∀ shown, shown ∈ listed ↔
        ∃ custom, want (.custom shown.key) host = some (.custom custom) ∧
          shown = custom.shown shown.key := by
  constructor
  · refine foldl_keeps add skipped
      (fun rule member view => skipped_add view fun key categorized unread => ?_) empty
    obtain ⟨domain, tag⟩ := RemoteRule.tag_of_category? categorized
    obtain ⟨-, -, -, -, -, decompiled, read, -⟩ := (made key).source member tag
    rw [read] at unread
    cases unread
  · exact fun host => ⟨rules.filterMap (entryOf? host), lookup_foldl empty rules host,
      nodup_entries made, fun shown => mem_entries made⟩

end Made

end CustomView

end EdgePolicy
