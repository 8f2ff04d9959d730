import EdgePolicy.Proofs.Expression.Rewriting
import EdgePolicy.Proofs.View.Waf

/-
What the view of addresses and countries says of a single rule.

Whatever the containers hold, a rule of a shown category is reported as unreadable, or the first of
its conditions on the field of its category is put under the host of its expression
(`WafView.add_reported`), where the entry stays until a later rule of the category speaks of the
host (`WafView.foldl_kept`).  So a rule with one condition, and none of its category behind it for
the host, is shown as it is or reported (`shown_or_reported`).  A rule with more conditions is shown
in part and not reported (`not_shown_or_reported`).

The mode of a country entry is told by the operator of the condition (`WafView.Shows`), which is one
of two for every condition on countries that is read (`operator_of_country`).
-/

set_option autoImplicit false
set_option relaxedAutoImplicit false

namespace EdgePolicy

open Json (insertMember)

def UnreadableRule.Names (entry : UnreadableRule) (rule : RemoteRule) : Prop :=
  entry.tag = rule.tag ∧ entry.expression = rule.expression

namespace RemoteRule

variable {rule : RemoteRule} {field : Field}

/-- The expression of a rule was read completely, and its first condition on a field. -/
structure Tells (rule : RemoteRule) (field : Field) (decompiled : Decompiled)
    (condition : Condition) : Prop where
  read : Expression.decompile rule.expression = .ok decompiled
  lossless : decompiled.skipped = []
  found : (decompiled.groups.flatMap (·.conditions)).find? (·.field == field) = some condition

private theorem readingOn_cases (rule : RemoteRule) (field : Field) :
    (∃ entry ∈ (rule.readingOn field).2, entry.Names rule) ∨
      ∃ decompiled condition, rule.Tells field decompiled condition ∧
        rule.readingOn field = (some (decompiled.host, condition), []) := by
  unfold readingOn reading
  cases read : Expression.decompile rule.expression with
  | error fault => exact .inl ⟨.of rule (.expression fault), List.mem_singleton_self _, rfl, rfl⟩
  | ok decompiled =>
    cases lossless : decompiled.isLossless with
    | false =>
      refine .inl ⟨.of rule (.clauses decompiled.skipped), ?_, rfl, rfl⟩
      cases found : (decompiled.groups.flatMap (·.conditions)).find? (·.field == field) <;>
        simp [lossless, found]
    | true =>
      cases found : (decompiled.groups.flatMap (·.conditions)).find? (·.field == field) with
      | none => exact .inl ⟨.of rule (.noCondition field), by simp [found], rfl, rfl⟩
      | some condition =>
        exact .inr ⟨decompiled, condition, ⟨read, List.isEmpty_iff.mp lossless, found⟩,
          by simp [lossless, found]⟩

private theorem host_of_readingOn {host : String} {condition : Condition}
    {listed : List UnreadableRule}
    (reading : rule.readingOn field = (some (host, condition), listed)) :
    ∃ decompiled, Expression.decompile rule.expression = .ok decompiled ∧
      decompiled.host = host := by
  unfold readingOn RemoteRule.reading at reading
  cases read : Expression.decompile rule.expression with
  | error fault => simp [read] at reading
  | ok decompiled =>
    simp only [read] at reading
    split at reading
    · obtain ⟨same, -⟩ := Prod.mk.inj reading
      exact ⟨decompiled, rfl, (Prod.mk.inj (Option.some.inj same)).1⟩
    · simp at reading

end RemoteRule

namespace WafView

/-- A rule is listed as unreadable. -/
def Reports (view : WafView) (rule : RemoteRule) : Prop :=
  ∃ entry ∈ view.skipped, entry.Names rule

/-- The entry of a host says what a condition of a category says: its values, and for countries
whether these are blocked or all others. -/
def Shows (view : WafView) (category : Category) (host : String) (condition : Condition) : Prop :=
  match category with
  | .blacklist => view.blacklist.lookup host = some condition.operand.items
  | .whitelist => view.whitelist.lookup host = some condition.operand.items
  | .country => ∃ entry, view.countries.lookup host = some entry ∧
      entry.codes = condition.operand.items ∧
      (entry.mode = .block ↔ condition.operator = .within) ∧
      (entry.mode = .allow ↔ condition.operator = .notWithin)
  | _ => False

/-- The expression of a rule is one group of one condition, which is shown under its host. -/
def ShowsWhole (view : WafView) (category : Category) (rule : RemoteRule) : Prop :=
  ∃ decompiled condition, Expression.decompile rule.expression = .ok decompiled ∧
    decompiled.groups.map (·.conditions) = [[condition]] ∧
    view.Shows category decompiled.host condition

/-- A rule of a category speaks of a host. -/
def Speaks (category : Category) (host : String) (rule : RemoteRule) : Prop :=
  rule.category? = some category ∧
    ∃ decompiled, Expression.decompile rule.expression = .ok decompiled ∧ decompiled.host = host

section

variable {view : WafView} {rule other : RemoteRule} {category about : Category} {host : String}

private theorem shows_of_shown {condition : Condition} (inView : category.InView)
    (set : category = .country → condition.operator = .within ∨ condition.operator = .notWithin)
    (shown : view.shown category host = some (category.showing condition)) :
    view.Shows category host condition := by
  cases category with
  | blacklist | whitelist =>
    obtain ⟨items, found, same⟩ := Option.map_eq_some_iff.mp shown
    obtain ⟨-, rfl⟩ := Prod.mk.inj same
    exact found
  | country =>
    obtain ⟨entry, found, same⟩ := Option.map_eq_some_iff.mp shown
    obtain ⟨mode, codes⟩ := Prod.mk.inj same
    refine ⟨entry, found, codes, ?_⟩
    rw [Option.some.inj mode]
    rcases set rfl with within | notWithin
    · simp [within]
    · simp [notWithin]
  | _ => exact inView.elim

private theorem add_eq (view : WafView) (categorized : rule.category? = some about)
    (inView : about.InView) :
    view.add rule = match rule.readingOn about.shownField with
      | (some (named, condition), listed) => (view.skip listed).tell about named condition
      | (none, listed) => view.skip listed := by
  unfold add
  rw [categorized]
  cases about with
  | blacklist | whitelist =>
    rcases reading : rule.readingOn .sourceAddress with ⟨_ | ⟨named, condition⟩, listed⟩ <;>
      simp [Category.shownField, reading, tell, skip]
  | country =>
    rcases reading : rule.readingOn .sourceCountry with ⟨_ | ⟨named, condition⟩, listed⟩ <;>
      simp [Category.shownField, reading, tell, skip]
  | _ => exact inView.elim

private theorem add_hidden (view : WafView)
    (hidden : ∀ about, rule.category? = some about → ¬ about.InView) : view.add rule = view := by
  unfold add
  cases categorized : rule.category? with
  | none => rfl
  | some about =>
    cases about with
    | blacklist | whitelist | country => exact absurd trivial (hidden _ categorized)
    | _ => rfl

theorem skipped_add (view : WafView) (categorized : rule.category? = some about)
    (inView : about.InView) :
    (view.add rule).skipped = view.skipped ++ (rule.readingOn about.shownField).2 := by
  rw [add_eq view categorized inView]
  rcases rule.readingOn about.shownField with ⟨_ | ⟨named, condition⟩, listed⟩
  · rfl
  · exact tell_skipped _ about named condition

private theorem skipped_kept (view : WafView) (rule : RemoteRule) {entry : UnreadableRule}
    (listed : entry ∈ view.skipped) : entry ∈ (view.add rule).skipped := by
  by_cases hidden : ∀ about, rule.category? = some about → ¬ about.InView
  · rwa [add_hidden view hidden]
  · push Not at hidden
    obtain ⟨about, categorized, inView⟩ := hidden
    rw [skipped_add view categorized inView]
    exact List.mem_append_left _ listed

private theorem foldl_skipped_kept (rules : List RemoteRule) {entry : UnreadableRule}
    (listed : entry ∈ view.skipped) : entry ∈ (rules.foldl add view).skipped := by
  induction rules generalizing view with
  | nil => exact listed
  | cons first rest ih => exact ih (skipped_kept view first listed)

private theorem shown_skip (view : WafView) (listed : List UnreadableRule) :
    (view.skip listed).shown category host = view.shown category host := by
  cases category <;> rfl

private theorem shown_add (inView : category.InView) (silent : ¬ Speaks category host rule) :
    (view.add rule).shown category host = view.shown category host := by
  by_cases hidden : ∀ about, rule.category? = some about → ¬ about.InView
  · rw [add_hidden view hidden]
  · push Not at hidden
    obtain ⟨about, categorized, inView'⟩ := hidden
    rw [add_eq view categorized inView']
    rcases reading : rule.readingOn about.shownField with ⟨_ | ⟨named, condition⟩, listed⟩
    · exact shown_skip view listed
    · rw [shown_tell inView' inView, shown_skip, if_neg]
      rintro same
      obtain ⟨rfl, rfl⟩ := Prod.mk.inj same
      exact silent ⟨categorized, RemoteRule.host_of_readingOn reading⟩

/-- An entry stays until a later rule of its category speaks of its host. -/
theorem foldl_kept (inView : category.InView) {rules : List RemoteRule}
    (silent : ∀ rule ∈ rules, ¬ Speaks category host rule) :
    (rules.foldl add view).shown category host = view.shown category host :=
  foldl_keeps add (fun view => view.shown category host)
    (fun rule member _ => shown_add inView (silent rule member)) view

/-- A rule of a shown category is reported, or was read completely and its first condition on the
field of the category is shown under its host. -/
theorem add_reported (view : WafView) (categorized : rule.category? = some category)
    (inView : category.InView) :
    (view.add rule).Reports rule ∨
      ∃ decompiled condition, rule.Tells category.shownField decompiled condition ∧
        (view.add rule).shown category decompiled.host = some (category.showing condition) := by
  rcases rule.readingOn_cases category.shownField with ⟨entry, listed, names⟩ | told
  · refine .inl ⟨entry, ?_, names⟩
    rw [skipped_add view categorized inView]
    exact List.mem_append_right _ listed
  · obtain ⟨decompiled, condition, tells, reading⟩ := told
    refine .inr ⟨decompiled, condition, tells, ?_⟩
    rw [add_eq view categorized inView, reading]
    exact (shown_tell inView inView _ _ _ _).trans (if_pos rfl)

end

end WafView

section Countries

open Expression (Recognised)

private theorem operator_of_recognised {c : Condition} (recognised : Recognised c)
    (field : c.field = .sourceCountry) : c.operator = .within ∨ c.operator = .notWithin := by
  cases recognised with
  | membership quoted form nonempty => simpa [Condition.of] using form
  | text path value form noQuote =>
    unfold Condition.of Expression.fieldOfPath at field
    dsimp only at field
    split at field
    · cases field
    · split at field <;> cases field
  | equality value single form =>
    simp only [List.mem_cons, List.not_mem_nil, or_false] at single
    rcases single with rfl | rfl <;> cases field
  | header | addresses | knownBot => cases field

/-- In an expression that is read completely a condition on countries compares with a set. -/
theorem operator_of_country {expression : String} {decompiled : Decompiled}
    (done : Expression.decompile expression = .ok decompiled)
    (lossless : decompiled.isLossless = true) {c : Condition}
    (member : c ∈ decompiled.groups.flatMap (·.conditions)) (field : c.field = .sourceCountry) :
    c.operator = .within ∨ c.operator = .notWithin := by
  obtain ⟨groups, canonical, readable⟩ := Expression.groups_of_decompile done lossless
  obtain ⟨group, inGroups, inGroup⟩ := List.mem_flatMap.mp member
  rw [canonical] at inGroups
  obtain ⟨group', inGroups', original, inGroup', join, rfl⟩ := Group.mem_canonical inGroups inGroup
  have recognised := (readable group' inGroups' original inGroup').recognised
  -- Neither the field nor the operator is told by the join.
  have told : original.operator = .within ∨ original.operator = .notWithin :=
    operator_of_recognised recognised field
  exact told

end Countries

section Single

private theorem Decompiled.length_conditions (decompiled : Decompiled) :
    decompiled.conditions.length = (decompiled.groups.flatMap (·.conditions)).length := by
  have lengths : ∀ (leading : Join) (conditions : List Condition),
      (Group.joins leading conditions).length = conditions.length := by
    intro leading conditions
    cases conditions <;> simp [Group.joins]
  have sizes : (Group.canonical decompiled.groups).map (fun group => group.conditions.length) =
      decompiled.groups.map fun group => group.conditions.length := by
    apply List.ext_getElem?
    intro index
    simp [Group.canonical, List.getElem?_mapIdx, Function.comp_def, Group.tagged, lengths]
  rw [Decompiled.conditions, Group.flatten, List.length_flatMap, List.length_flatMap, sizes]

private theorem groups_of_single {groups : List Group} {condition : Condition}
    (single : groups.flatMap (·.conditions) = [condition]) :
    groups.map (·.conditions) = [[condition]] := by
  cases groups with
  | nil => nomatch single
  | cons first rest =>
    have filled := List.length_pos_iff.mpr first.nonempty
    have total := congrArg List.length single
    simp only [List.flatMap_cons, List.length_append, List.length_singleton] at total
    have nothing : rest.flatMap (·.conditions) = [] := List.length_eq_zero_iff.mp (by omega)
    have none : rest = [] := by
      cases rest with
      | nil => rfl
      | cons second others =>
        exact absurd (List.append_eq_nil_iff.mp nothing).1 second.nonempty
    subst none
    rw [List.flatMap_singleton] at single
    rw [List.map_singleton, single]

theorem RemoteRule.Tells.whole {rule : RemoteRule} {field : Field} {decompiled : Decompiled}
    {condition : Condition} (tells : rule.Tells field decompiled condition)
    (single : decompiled.conditions.length ≤ 1) :
    decompiled.groups.map (·.conditions) = [[condition]] := by
  rw [decompiled.length_conditions] at single
  have member := List.mem_of_find?_eq_some tells.found
  obtain ⟨only, alone⟩ := List.length_eq_one_iff.mp
    (Nat.le_antisymm single (List.length_pos_of_mem member))
  rw [alone, List.mem_singleton] at member
  exact groups_of_single (member ▸ alone)

end Single

namespace Session

variable {σ : Type} {answers : Answers σ} {runId : RunId} {now : Timestamp} {zones : List String}
  {session after : Session σ} {rules : List RemoteRule}

private theorem carryOut_readWaf
    (gathered : carryOut answers runId now (View.rulesOf .firewall zones) session =
      (.ok rules, after)) :
    carryOut answers runId now (View.read zones .waf) session =
      (.ok (.waf (.ofRules rules)), after) := by
  have steps : View.read zones .waf = (View.rulesOf .firewall zones).bind fun rules =>
      .done (.ok (.waf (.ofRules rules))) := rfl
  unfold carryOut at gathered ⊢
  rw [steps, Procedure.run_bind, StateT.run_bind, gathered]
  rfl

/-- Whatever the firewall containers of zones hold, a rule for addresses or countries that has at
most one condition, and behind which no rule of its category speaks of its host, is reported as
unreadable, or its only condition is shown under its host. -/
theorem shown_or_reported
    (gathered : carryOut answers runId now (View.rulesOf .firewall zones) session =
      (.ok rules, after)) :
    ∃ view, carryOut answers runId now (View.read zones .waf) session =
        (.ok (.waf view), after) ∧
      ∀ (front back : List RemoteRule) (rule : RemoteRule) (category : Category),
        rules = front ++ rule :: back → rule.category? = some category → category.InView →
        (∀ decompiled, Expression.decompile rule.expression = .ok decompiled →
          decompiled.conditions.length ≤ 1 ∧
            ∀ other ∈ back, ¬ WafView.Speaks category decompiled.host other) →
        view.Reports rule ∨ view.ShowsWhole category rule := by
  refine ⟨_, carryOut_readWaf gathered, ?_⟩
  rintro front back rule category rfl categorized inView alone
  have folded : WafView.ofRules (front ++ rule :: back) =
      back.foldl WafView.add ((WafView.ofRules front).add rule) := by
    simp [WafView.ofRules]
  rw [folded]
  rcases WafView.add_reported (.ofRules front) categorized inView with reported | told
  · obtain ⟨entry, listed, names⟩ := reported
    exact .inl ⟨entry, WafView.foldl_skipped_kept back listed, names⟩
  · obtain ⟨decompiled, condition, tells, shown⟩ := told
    obtain ⟨single, silent⟩ := alone decompiled tells.read
    have set : category = .country →
        condition.operator = .within ∨ condition.operator = .notWithin := by
      rintro rfl
      have field := List.find?_some tells.found
      exact operator_of_country tells.read (List.isEmpty_iff.mpr tells.lossless)
        (List.mem_of_find?_eq_some tells.found) (beq_iff_eq.mp field)
    refine .inr ⟨decompiled, condition, tells.read, tells.whole single, ?_⟩
    refine WafView.shows_of_shown inView set ?_
    rw [WafView.foldl_kept inView silent, shown]

/-- A platform with one zone, whose firewall container holds some rules. -/
def oneFirewall (rules : List RemoteRule) : Session Store :=
  ⟨{ Store.empty.addZone "example.com" "zone" with
      containers := [{ Store.provisioned "zone" "firewall" .firewall "zone" with rules }] },
    .empty "journal"⟩

private theorem rulesOf_oneFirewall (rules : List RemoteRule) :
    (carryOut Store.answer default default (View.rulesOf .firewall ["example.com"])
      (oneFirewall rules)).1 = .ok rules :=
  congrArg Except.ok rules.append_nil

/-- A rule that allows a country, one that blocks an address, and one whose expression is no group. -/
def sampleRules : List RemoteRule :=
  [{ (default : RemoteRule) with
      tag := "country_c.io"
      expression := "(not ip.src.country in \x7b\"DE\"\x7d and http.host eq \"c.io\")" },
    { (default : RemoteRule) with
      tag := "black_ip_a.io"
      expression := "(ip.src in \x7b192.0.2.1\x7d and http.host eq \"a.io\")" },
    { (default : RemoteRule) with
      tag := "black_ip_b.io"
      expression := "ip.src in \x7b192.0.2.2\x7d" }]

theorem shown_or_reported_sample :
    ∃ countryRule addressRule other after view,
      carryOut Store.answer default default (View.rulesOf .firewall ["example.com"])
        (oneFirewall sampleRules) = (.ok [countryRule, addressRule, other], after) ∧
      countryRule.category? = some .country ∧ addressRule.category? = some .blacklist ∧
      (∀ decompiled, Expression.decompile countryRule.expression = .ok decompiled →
        decompiled.conditions.length ≤ 1 ∧
          ∀ rule ∈ [addressRule, other], ¬ WafView.Speaks .country decompiled.host rule) ∧
      (∀ decompiled, Expression.decompile addressRule.expression = .ok decompiled →
        decompiled.conditions.length ≤ 1 ∧
          ∀ rule ∈ [other], ¬ WafView.Speaks .blacklist decompiled.host rule) ∧
      carryOut Store.answer default default (View.read ["example.com"] .waf)
        (oneFirewall sampleRules) = (.ok (.waf view), after) ∧
      (view.Reports countryRule ∨ view.ShowsWhole .country countryRule) ∧
      (view.Reports addressRule ∨ view.ShowsWhole .blacklist addressRule) := by
  have gathered : carryOut Store.answer default default (View.rulesOf .firewall ["example.com"])
      (oneFirewall sampleRules) = (.ok sampleRules, _) :=
    Prod.ext (rulesOf_oneFirewall sampleRules) rfl
  obtain ⟨view, read, covers⟩ := shown_or_reported gathered
  have country : sampleRules[0].category? = some .country := by decide +kernel
  have blacklist : sampleRules[1].category? = some .blacklist := by decide +kernel
  have blacklist' : sampleRules[2].category? = some .blacklist := by decide +kernel
  have countryAlone : ∀ decompiled,
      Expression.decompile sampleRules[0].expression = .ok decompiled →
      decompiled.conditions.length ≤ 1 ∧ ∀ rule ∈ [sampleRules[1], sampleRules[2]],
        ¬ WafView.Speaks .country decompiled.host rule := by
    intro decompiled read
    have whole : Expression.decompile sampleRules[0].expression =
        .ok ⟨"c.io", Group.single (.of .sourceCountry .notWithin (.many ["DE"])), []⟩ := by
      decide +kernel
    obtain rfl := Except.ok.inj (whole.symm.trans read)
    refine ⟨by decide, List.forall_mem_cons.mpr ⟨?_, List.forall_mem_singleton.mpr ?_⟩⟩
    · rintro ⟨categorized, -⟩
      nomatch blacklist.symm.trans categorized
    · rintro ⟨categorized, -⟩
      nomatch blacklist'.symm.trans categorized
  have addressAlone : ∀ decompiled,
      Expression.decompile sampleRules[1].expression = .ok decompiled →
      decompiled.conditions.length ≤ 1 ∧
        ∀ rule ∈ [sampleRules[2]], ¬ WafView.Speaks .blacklist decompiled.host rule := by
    intro decompiled read
    have whole : Expression.decompile sampleRules[1].expression =
        .ok ⟨"a.io", Group.single (.of .sourceAddress .within (.many ["192.0.2.1"])), []⟩ := by
      decide +kernel
    obtain rfl := Except.ok.inj (whole.symm.trans read)
    refine ⟨by decide, List.forall_mem_singleton.mpr ?_⟩
    rintro ⟨-, other, read', -⟩
    have refused : (Expression.decompile sampleRules[2].expression).toOption = none := by
      decide +kernel
    rw [read'] at refused
    nomatch refused
  exact ⟨sampleRules[0], sampleRules[1], sampleRules[2], _, view, gathered, country, blacklist,
    countryAlone, addressAlone, read,
    covers [] [sampleRules[1], sampleRules[2]] sampleRules[0] .country rfl country trivial
      countryAlone,
    covers [sampleRules[0]] [sampleRules[2]] sampleRules[1] .blacklist rfl blacklist trivial
      addressAlone⟩

/-- A rule that blocks an address in each of two groups. -/
def twoGroups : RemoteRule :=
  { (default : RemoteRule) with
    tag := "black_ip_a.io"
    expression := "(ip.src in \x7b192.0.2.1\x7d and http.host eq \"a.io\") or " ++
      "(ip.src in \x7b192.0.2.2\x7d and http.host eq \"a.io\")" }

/-- Of a rule with two groups the view shows the first one, and does not report the rule. -/
theorem not_shown_or_reported :
    ∃ after view,
      carryOut Store.answer default default (View.rulesOf .firewall ["example.com"])
        (oneFirewall [twoGroups]) = (.ok [twoGroups], after) ∧
      carryOut Store.answer default default (View.read ["example.com"] .waf)
        (oneFirewall [twoGroups]) = (.ok (.waf view), after) ∧
      twoGroups.category? = some .blacklist ∧
      view.shown .blacklist "a.io" = some (none, ["192.0.2.1"]) ∧
      ¬ view.Reports twoGroups ∧ ¬ view.ShowsWhole .blacklist twoGroups := by
  have gathered : carryOut Store.answer default default (View.rulesOf .firewall ["example.com"])
      (oneFirewall [twoGroups]) = (.ok [twoGroups], _) :=
    Prod.ext (rulesOf_oneFirewall [twoGroups]) rfl
  refine ⟨_, _, gathered, carryOut_readWaf gathered, by decide +kernel, by decide +kernel, ?_, ?_⟩
  · have nothing : (WafView.ofRules [twoGroups]).skipped = [] := by decide +kernel
    rintro ⟨entry, listed, -⟩
    rw [nothing] at listed
    nomatch listed
  · have twice : (Expression.decompile twoGroups.expression).map
        (fun decompiled => decompiled.groups.length) = .ok 2 := by
      decide +kernel
    rintro ⟨decompiled, condition, read, single, -⟩
    have one := congrArg List.length single
    rw [read] at twice
    have two : decompiled.groups.length = 2 := Except.ok.inj twice
    rw [List.length_map, two] at one
    nomatch one

end Session

end EdgePolicy
