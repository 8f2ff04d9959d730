import EdgePolicy.Proofs.View.Custom

/-
The view of cache settings shows what the cache rules were made from.

Of the entries of a host the view keeps the last one (`look_foldl`).  A rule that was made from cache
settings for a host has an entry under that host; its parameters are read back as they were sent,
because the parameters of a valid request are complete.
-/

set_option autoImplicit false
set_option relaxedAutoImplicit false

namespace EdgePolicy

open Json (insertMember)

/-- What a view shows of a requested time-to-live setting: its mode, and its seconds where that mode
overrides the origin. -/
def TtlRequest.shown (request : TtlRequest) : TtlSetting where
  mode := request.mode
  seconds := if request.mode = "override_origin" then request.seconds else none

/-- What a view shows of cache settings: the conditions, and the time-to-live settings where caching
is on. -/
def CacheSettings.shown (settings : CacheSettings) : CacheView where
  parameters := {
    cache := settings.cache
    browser := if settings.cache then some settings.browser.shown else none
    edge := if settings.cache then some settings.edge.shown else none }
  conditions := Condition.shownAll settings.conditions
  skipped := []

theorem CacheSettings.shown_parameters (settings : CacheSettings) :
    settings.shown.parameters = settings.parameters := by
  unfold shown parameters CacheParameters.of
  cases settings.cache <;> rfl

namespace CacheSettingsView

variable {rules : List RemoteRule} {rule : RemoteRule} {host : String}

def entryOf? (host : String) (rule : RemoteRule) : Option CacheView :=
  match rule.category?, parameters? rule, rule.reading with
  | some .cache, some parameters, (some decompiled, _) =>
    if decompiled.host = host then
      some ⟨parameters, decompiled.conditions, decompiled.skipped⟩
    else none
  | _, _, _ => none

theorem lookup_add (view : CacheSettingsView) (rule : RemoteRule) (host : String) :
    (view.add rule).domains.lookup host = (entryOf? host rule).or (view.domains.lookup host) := by
  unfold add entryOf?
  rcases rule.category? with _ | category
  · rfl
  · cases category with
    | cache =>
      rcases parameters? rule with _ | parameters
      · rfl
      · rcases rule.reading with ⟨_ | decompiled, listed⟩
        · rfl
        · simp only [lookup_insertMember]
          by_cases same : host = decompiled.host
          · subst same
            simp
          · simp [same, Ne.symm same]
    | _ => rfl

theorem skipped_add (view : CacheSettingsView) (read : rule.category? = some .cache →
      parameters? rule ≠ none ∧ rule.reading.1 ≠ none) :
    (view.add rule).skipped = view.skipped := by
  unfold add
  rcases categorized : rule.category? with _ | category
  · rfl
  · cases category with
    | cache =>
      obtain ⟨known, readable⟩ := read categorized
      rcases given : parameters? rule with _ | parameters
      · exact absurd given known
      · rcases reading : rule.reading with ⟨_ | decompiled, listed⟩
        · exact absurd (congrArg Prod.fst reading) readable
        · rfl
    | _ => rfl

section Made

variable {want : Category → String → Option RuleSource} (made : MadeAs want rules .cache)

include made

private theorem read_of_tag (member : rule ∈ rules) (tag : rule.tag = Category.cache.tag host) :
    ∃ settings decompiled, want .cache host = some (.cache settings) ∧
      parameters? rule = some settings.parameters ∧ rule.reading = (some decompiled, []) ∧
      decompiled.host = host ∧ decompiled.skipped = [] ∧
      decompiled.conditions = Condition.shownAll settings.conditions := by
  obtain ⟨source, wanted, isFor, -, given, decompiled, read, host', skipped, conditions⟩ :=
    made.source member tag
  cases isFor with
  | @cache settings complete =>
    refine ⟨settings, decompiled, wanted, ?_, read, host', skipped, conditions⟩
    unfold parameters?
    rw [given]
    exact CacheParameters.ofJson?_free complete

theorem entryOf?_eq_some (member : rule ∈ rules) {shown : CacheView} :
    entryOf? host rule = some shown ↔ rule.tag = Category.cache.tag host ∧ host ≠ "" ∧
      ∃ settings, want .cache host = some (.cache settings) ∧ shown = settings.shown := by
  constructor
  · intro entered
    unfold entryOf? at entered
    split at entered
    · next parameters decompiled listed categorized known reading =>
      split at entered
      · next named =>
        obtain rfl := Option.some.inj entered
        subst named
        obtain ⟨tag, filled⟩ := made.tag_of_reading member categorized reading
        obtain ⟨settings, decompiled', wanted, known', read, -, skipped, conditions⟩ :=
          read_of_tag made member tag
        cases reading.symm.trans read
        cases known.symm.trans known'
        refine ⟨tag, filled, settings, wanted, ?_⟩
        rw [skipped, conditions, ← settings.shown_parameters]
        rfl
      · cases entered
    · cases entered
  · rintro ⟨tag, named, settings, wanted, rfl⟩
    have categorized := RemoteRule.category?_of_tag (by rintro ⟨⟩) named tag
    obtain ⟨settings', decompiled, wanted', known, read, host', skipped, conditions⟩ :=
      read_of_tag made member tag
    cases wanted.symm.trans wanted'
    unfold entryOf?
    rw [categorized, known, read]
    simp only [host', if_true]
    rw [skipped, conditions, ← settings.shown_parameters]
    rfl

theorem ofRules_shown : (ofRules rules).skipped = [] ∧ ∀ host shown,
    (ofRules rules).domains.lookup host = some shown ↔
      ∃ settings, want .cache host = some (.cache settings) ∧ shown = settings.shown := by
  refine ⟨foldl_keeps add skipped
    (fun rule member view => skipped_add view fun categorized => ?_) empty, fun host shown => ?_⟩
  · obtain ⟨domain, tag⟩ := RemoteRule.tag_of_category? categorized
    obtain ⟨settings, decompiled, -, known, read, -⟩ := read_of_tag made member tag
    rw [known, read]
    exact ⟨Option.some_ne_none _, Option.some_ne_none _⟩
  · have last : (ofRules rules).domains.lookup host =
        (rules.filterMap (entryOf? host)).getLast?.or (empty.domains.lookup host) :=
      look_foldl add (fun view => view.domains.lookup host) (entryOf? host)
        (fun view rule => lookup_add view rule host) rules empty
    rw [last, show empty.domains.lookup host = none from rfl, Option.or_none]
    refine getLast?_filterMap (fun shown : CacheView => ∃ settings,
      want .cache host = some (.cache settings) ∧ shown = settings.shown) ?_
      (fun rule member shown entered => ?_) fun shown entered => ?_
    · rintro shown other ⟨settings, wanted, rfl⟩ ⟨settings', wanted', rfl⟩
      cases wanted.symm.trans wanted'
      rfl
    · exact ((entryOf?_eq_some made member).mp entered).2.2
    · obtain ⟨settings, wanted, rfl⟩ := entered
      obtain ⟨rule, member, tag, named⟩ := made.present wanted
      exact ⟨rule, member, (entryOf?_eq_some made member).mpr ⟨tag, named, settings, wanted, rfl⟩⟩

end Made

end CacheSettingsView

end EdgePolicy
