import EdgePolicy.Proofs.View.Cache

/-
The views of custom rules and of cache settings show what requests last sent.

`sourceTopic` says what the rules of a platform with one zone were made from after successful
requests, and the views show exactly that.  A host has one entry for each rule of the last custom
request that names it, because a request is refused that has two rules for one key.
-/

set_option autoImplicit false
set_option relaxedAutoImplicit false

namespace EdgePolicy

open Session (Leads onStore)

section Sent

theorem plan_of_apply {request : Request} {runId : RunId} {now : Timestamp}
    {session after : Session Store} {reports : List Report}
    (applied : onStore runId now request.apply session = (.ok reports, after)) :
    ∃ planned, request.plan = .ok planned := by
  unfold Request.apply at applied
  rw [Session.onStore_bind] at applied
  cases planned : request.plan with
  | ok pairs => exact ⟨pairs, rfl⟩
  | error fault =>
    rw [planned] at applied
    cases applied

theorem Session.Applied.planned {requests : List Request} {session after : Session Store}
    (applied : Session.Applied requests session after) :
    ∀ request ∈ requests, ∃ planned, request.plan = .ok planned := by
  induction applied with
  | none session => exact List.forall_mem_nil _
  | request runId now reports applied more ih =>
    exact List.forall_mem_cons.mpr ⟨plan_of_apply applied, ih⟩

private theorem lastSaid_eq_some {α : Type} {said? : Request → Option α} {host : String}
    {requests : List Request} {said : α} (last : lastSaid said? host requests = some said) :
    ∃ request ∈ requests, request.names host = true ∧ said? request = some said := by
  obtain ⟨request, member, found⟩ := List.exists_of_findSome?_eq_some last
  split at found
  · next named => exact ⟨request, List.mem_reverse.mp member, named, found⟩
  · cases found

private theorem keys_of_customFrom {host : String} {index : Nat} {seen : List CustomKey}
    {customs : List CustomRule} {rules : List DesiredRule}
    (made : DesiredRule.customFrom host index seen customs = .ok rules) :
    (∀ rule ∈ customs, ∃ key, rule.key? = some key ∧ key ∉ seen) ∧
      (customs.map CustomRule.key?).Nodup := by
  induction customs generalizing index seen rules with
  | nil => exact ⟨List.forall_mem_nil _, List.nodup_nil⟩
  | cons rule rest ih =>
    obtain ⟨key, desired, others, keyed, fresh, -, more, -⟩ :=
      DesiredRule.customFrom_cons_eq_ok made
    obtain ⟨keys, distinct⟩ := ih more
    refine ⟨List.forall_mem_cons.mpr ⟨⟨key, keyed, fresh⟩, fun other member => ?_⟩, ?_⟩
    · obtain ⟨key', keyed', fresh'⟩ := keys other member
      exact ⟨key', keyed', fun listed => fresh' (List.mem_cons_of_mem _ listed)⟩
    · refine List.nodup_cons.mpr ⟨fun listed => ?_, distinct⟩
      obtain ⟨other, member, same⟩ := List.mem_map.mp listed
      obtain ⟨key', keyed', fresh'⟩ := keys other member
      have clash : key' = key := Option.some.inj (keyed'.symm.trans (same.trans keyed))
      exact fresh' (clash ▸ List.mem_cons_self)

private theorem keys_of_lastSaid {requests : List Request} {session after : Session Store}
    (applied : Session.Applied requests session after) {host : String} {customs : List CustomRule}
    (last : (lastSaid Request.customRules? host requests).getD [] = customs) :
    (∀ rule ∈ customs, ∃ key, rule.key? = some key) ∧ (customs.map CustomRule.key?).Nodup := by
  subst last
  cases last : lastSaid Request.customRules? host requests with
  | none => exact ⟨List.forall_mem_nil _, List.nodup_nil⟩
  | some customs =>
    obtain ⟨request, member, named, sent⟩ := lastSaid_eq_some last
    obtain ⟨planned, made⟩ := applied.planned request member
    obtain ⟨-, targets, each⟩ := Request.plan_eq_ok made
    cases request with
    | custom request =>
      obtain rfl := Option.some.inj sent
      obtain ⟨target, inTargets, same⟩ := List.mem_map.mp (names_iff.mp named)
      rw [← targets] at inTargets
      obtain ⟨pair, inPlan, rfl⟩ := List.mem_map.mp inTargets
      obtain ⟨keys, distinct⟩ := keys_of_customFrom (each pair inPlan)
      exact ⟨fun rule listed => (keys rule listed).imp fun _ keyed => keyed.1, distinct⟩
    | _ => cases sent

private theorem complete_of_lastSaid {requests : List Request} {session after : Session Store}
    (applied : Session.Applied requests session after)
    (fits : ∀ request ∈ requests, request.FitsWords) {host : String} {settings : CacheSettings}
    (last : lastSaid Request.cacheSettings? host requests = some (some settings)) :
    settings.parameters.IsComplete := by
  obtain ⟨request, member, -, sent⟩ := lastSaid_eq_some last
  obtain ⟨planned, made⟩ := applied.planned request member
  obtain ⟨valid, -⟩ := Request.plan_eq_ok made
  cases request with
  | cache request =>
    obtain rfl := Option.some.inj (Option.some.inj sent)
    exact complete_of_valid valid (fits _ member)
  | _ => cases sent

end Sent

section Entries

variable {customs : List CustomRule} {listed : List CustomRuleView}

private theorem keyed?_eq_some (distinct : (customs.map CustomRule.key?).Nodup) {key : CustomKey}
    {rule : CustomRule} :
    CustomRule.keyed? customs key = some rule ↔ rule ∈ customs ∧ rule.key? = some key := by
  constructor
  · intro found
    have kept := List.find?_some found
    exact ⟨List.mem_of_find?_eq_some found, by simpa using kept⟩
  · rintro ⟨member, keyed⟩
    cases found : CustomRule.keyed? customs key with
    | none =>
      have other := List.find?_eq_none.mp found rule member
      simp [keyed] at other
    | some first =>
      have kept := List.find?_some found
      have keyed' : first.key? = some key := by simpa using kept
      rw [List.inj_on_of_nodup_map distinct (List.mem_of_find?_eq_some found) member
        (keyed'.trans keyed.symm)]

private theorem entries_perm (keys : ∀ rule ∈ customs, ∃ key, rule.key? = some key)
    (distinct : (customs.map CustomRule.key?).Nodup) (nodup : listed.Nodup)
    (shows : ∀ shown, shown ∈ listed ↔ ∃ rule, CustomRule.keyed? customs shown.key = some rule ∧
      shown = rule.shown shown.key) :
    (listed.map some).Perm (customs.map CustomRule.shown?) := by
  have byKey : (customs.map CustomRule.shown?).map (Option.map (·.key)) =
      customs.map CustomRule.key? := by
    rw [List.map_map]
    refine List.map_congr_left fun rule _ => ?_
    show (rule.key?.map rule.shown).map (·.key) = rule.key?
    rw [Option.map_map]
    exact Option.map_id'
  refine (List.perm_ext_iff_of_nodup (nodup.map (Option.some_injective _))
    (.of_map _ (byKey ▸ distinct))).mpr fun shown? => ?_
  constructor
  · intro member
    obtain ⟨shown, inListed, rfl⟩ := List.mem_map.mp member
    obtain ⟨rule, keyed, whole⟩ := (shows shown).mp inListed
    obtain ⟨inCustoms, key⟩ := (keyed?_eq_some distinct).mp keyed
    refine List.mem_map.mpr ⟨rule, inCustoms, ?_⟩
    rw [CustomRule.shown?, key, Option.map_some, ← whole]
  · intro member
    obtain ⟨rule, inCustoms, rfl⟩ := List.mem_map.mp member
    obtain ⟨key, keyed⟩ := keys rule inCustoms
    rw [CustomRule.shown?, keyed, Option.map_some]
    exact List.mem_map_of_mem ((shows (rule.shown key)).mpr
      ⟨rule, (keyed?_eq_some distinct).mpr ⟨inCustoms, keyed⟩, rfl⟩)

end Entries

section Wanted

variable {requests : List Request} {host : String}

private theorem after_custom (key : CustomKey) :
    sourceTopic.after requests (fun _ _ => none) (.custom key) host =
      (CustomRule.keyed? ((lastSaid Request.customRules? host requests).getD []) key).map
        .custom := by
  have said : lastSaid (Request.source? (.custom key)) host requests =
      (lastSaid Request.customRules? host requests).map fun customs =>
        (CustomRule.keyed? customs key).map .custom :=
    lastSaid_map Request.customRules? _ host requests
  show (lastSaid (Request.source? (.custom key)) host requests).getD none = _
  rw [said]
  cases lastSaid Request.customRules? host requests <;> rfl

private theorem after_cache : sourceTopic.after requests (fun _ _ => none) .cache host =
    (lastSaid Request.cacheSettings? host requests).join.map .cache := by
  have said : lastSaid (Request.source? .cache) host requests =
      (lastSaid Request.cacheSettings? host requests).map (Option.map .cache) :=
    lastSaid_map Request.cacheSettings? _ host requests
  show (lastSaid (Request.source? .cache) host requests).getD none = _
  rw [said]
  cases lastSaid Request.cacheSettings? host requests <;> rfl

end Wanted

theorem Store.tagged_eq (store : Store) (zoneId : String) (phase : Phase) (tag : String) :
    store.tagged zoneId phase tag = (store.rulesIn zoneId phase).filter (·.tag == tag) := by
  unfold rulesIn
  cases serves : store.serving? zoneId phase with
  | none => exact Store.tagged_of_none serves tag
  | some container => exact Store.tagged_of_serving serves tag

private theorem Topic.Stands.madeAs {zone zoneId : String}
    {want : Category → String → Option RuleSource} {session : Session Store}
    (stands : sourceTopic.Stands zone zoneId want session) {category : Category}
    (included : category.HasSource) :
    MadeAs want (session.platform.rulesIn zoneId category.phase) category := by
  intro host
  have borne := stands.borne category included host
  rwa [Store.tagged_eq] at borne

/-- After successful requests to a platform with one zone, the view of custom rules lists for every
host the rules of the last custom request that names it, each once, and the view of cache settings
shows the settings of the last cache request for the host, unless the host was removed since.  Both
time-to-live settings are shown where caching is on and none where it is off, and seconds only where
the mode overrides the origin. -/
theorem readSettings_applied {zone zoneId : String} {requests : List Request}
    {session after : Session Store} (zones : session.platform.zones = [(zone, zoneId)])
    (empty : session.platform.containers = []) (working : session.platform.failing = [])
    (applied : Session.Applied requests session after)
    (tame : ∀ request ∈ requests, request.IsTame)
    (fits : ∀ request ∈ requests, request.FitsWords) (runId : RunId) (now : Timestamp) :
    ∃ custom cache,
      (onStore runId now (View.read [zone] .custom) after).1 = .ok (.custom custom) ∧
      (onStore runId now (View.read [zone] .cache) after).1 = .ok (.cache cache) ∧
      custom.skipped = [] ∧ cache.skipped = [] ∧
      (∀ host, ∃ listed, (listed.map some).Perm
          (((lastSaid Request.customRules? host requests).getD []).map CustomRule.shown?) ∧
        custom.rules.lookup host = if listed = [] then none else some listed) ∧
      ∀ host, cache.domains.lookup host =
          (lastSaid Request.cacheSettings? host requests).join.map CacheSettings.shown ∧
        ∀ shown, cache.domains.lookup host = some shown → shown.parameters.IsComplete := by
  have start : sourceTopic.Stands zone zoneId (fun _ _ => none) session :=
    .of_empty zones working empty fun _ _ _ => rfl
  have stands := start.applied applied fun request member =>
    servedBy_sourceTopic (tame request member) (fits request member)
  have known : after.platform.zones.lookup zone = some zoneId := by
    rw [stands.zones, List.lookup_cons_self]
  have custom : ∀ key, MadeAs (sourceTopic.after requests fun _ _ => none)
      (after.platform.rulesIn zoneId .firewall) (.custom key) := fun key =>
    stands.madeAs (show (Category.custom key).HasSource from trivial)
  have cache : MadeAs (sourceTopic.after requests fun _ _ => none)
      (after.platform.rulesIn zoneId .cache) .cache :=
    stands.madeAs (show Category.cache.HasSource from trivial)
  obtain ⟨customRead, customShown⟩ := CustomView.ofRules_shown custom
  obtain ⟨cacheRead, cacheShown⟩ := CacheSettingsView.ofRules_shown cache
  have resolves : .resolveZone ∉ after.platform.failing := by simp [stands.failing]
  have readable := Store.readable_of_working stands.failing zoneId
  refine ⟨_, _, Leads.readView stands.wellFormed resolves (readable .firewall) known
      (fun rules => .custom (.ofRules rules)),
    Leads.readView stands.wellFormed resolves (readable .cache) known
      (fun rules => .cache (.ofRules rules)),
    customRead, cacheRead, fun host => ?_, fun host => ?_⟩
  · obtain ⟨listed, found, nodup, shows⟩ := customShown host
    obtain ⟨keys, distinct⟩ := keys_of_lastSaid applied rfl
    refine ⟨listed, entries_perm keys distinct nodup fun shown => ?_, found⟩
    rw [shows, after_custom]
    simp
  · have found : (CacheSettingsView.ofRules (after.platform.rulesIn zoneId .cache)).domains.lookup
        host = (lastSaid Request.cacheSettings? host requests).join.map CacheSettings.shown := by
      refine Option.ext fun shown => ?_
      rw [cacheShown, after_cache]
      simp [eq_comm]
    refine ⟨found, fun shown listed => ?_⟩
    rw [found] at listed
    obtain ⟨settings, sent, rfl⟩ := Option.map_eq_some_iff.mp listed
    rw [settings.shown_parameters]
    exact complete_of_lastSaid applied fits (Option.join_eq_some_iff.mp sent)

/-- Custom rules with two groups and with a path of its own, and cache settings; later one of the
rules is withdrawn. -/
def settingsRequests : List Request :=
  [.custom ⟨[⟨"example.com", "a.example.com"⟩],
      [⟨.block, [.of .fullUri .contains (.one "/admin"), .onHeader "x-env" .eq "dev",
          (Condition.of (.generic "request.full_uri") .contains (.one "/login")).joined .or]⟩,
        ⟨.skip, [.of (.generic "user_agent") .contains (.one "bot")]⟩]⟩,
    .cache ⟨"a.example.com", "example.com",
      ⟨true, ⟨"override_origin", some 60⟩, ⟨"respect_origin", some 60⟩, []⟩⟩,
    .custom ⟨[⟨"example.com", "a.example.com"⟩],
      [⟨.log, [.of (.generic "user_agent") .contains (.one "bot")]⟩]⟩]

private theorem applied_settingsRequests :
    ∃ after, Session.Applied settingsRequests oneZone after :=
  ⟨_, applied_of_isOk (by decide +kernel) (applied_of_isOk (by decide +kernel)
    (applied_of_isOk (by decide +kernel) (.none _)))⟩

theorem readSettings_applied_sample : ∃ after, Session.Applied settingsRequests oneZone after ∧
    (∀ request ∈ settingsRequests, request.IsTame) ∧
    (∀ request ∈ settingsRequests, request.FitsWords) ∧
    ∃ custom cache,
      (onStore default default (View.read ["example.com"] .custom) after).1 =
        .ok (.custom custom) ∧
      (onStore default default (View.read ["example.com"] .cache) after).1 = .ok (.cache cache) ∧
      custom.skipped = [] ∧ cache.skipped = [] ∧
      (∀ host, ∃ listed, (listed.map some).Perm
          (((lastSaid Request.customRules? host settingsRequests).getD []).map
            CustomRule.shown?) ∧
        custom.rules.lookup host = if listed = [] then none else some listed) ∧
      ∀ host, cache.domains.lookup host =
          (lastSaid Request.cacheSettings? host settingsRequests).join.map CacheSettings.shown ∧
        ∀ shown, cache.domains.lookup host = some shown → shown.parameters.IsComplete := by
  obtain ⟨after, applied⟩ := applied_settingsRequests
  have other : ∀ c : Condition, c.field ≠ .sourceAddress → Expression.Tame c :=
    fun c other field => absurd field other
  have tame : ∀ request ∈ settingsRequests, request.IsTame := by
    simp only [settingsRequests, List.forall_mem_cons, List.not_mem_nil, false_imp_iff,
      implies_true, and_true, Request.IsTame]
    exact ⟨⟨⟨other _ (by decide), other _ (by decide), other _ (by decide)⟩, other _ (by decide)⟩,
      trivial, other _ (by decide)⟩
  have fits : ∀ request ∈ settingsRequests, request.FitsWords := by
    simp only [settingsRequests, List.forall_mem_cons, List.not_mem_nil, false_imp_iff,
      implies_true, and_true, Request.FitsWords, Option.some.injEq, forall_eq']
    exact ⟨trivial, by decide, by decide⟩
  exact ⟨after, applied, tame, fits,
    readSettings_applied rfl rfl rfl applied tame fits default default⟩

end EdgePolicy
