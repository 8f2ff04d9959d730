import EdgePolicy.Proofs.Expression.RoundTrip
import EdgePolicy.Proofs.View.Applied
import EdgePolicy.View

/-
The view of addresses and countries shows what requests last said.

The view is a fold over the rules of a container.  When every rule of a shown category reads as the
condition that is wanted of its host, the fold lists exactly the wanted conditions, and leaves no
rule over as unreadable.
-/

set_option autoImplicit false
set_option relaxedAutoImplicit false

namespace EdgePolicy

open Json (insertMember)
open Session (Leads onStore)

private theorem lookup_cons_ite {α : Type} (name key : String) (value : α)
    (rest : List (String × α)) :
    ((name, value) :: rest).lookup key = if key = name then some value else rest.lookup key := by
  rw [List.lookup_cons]
  by_cases same : key = name
  · subst same
    simp
  · rw [if_neg same, beq_false_of_ne same]

theorem lookup_insertMember {α : Type} (name key : String) (value : α)
    (entries : List (String × α)) :
    (insertMember name value entries).lookup key =
      if key = name then some value else entries.lookup key := by
  induction entries with
  | nil => exact lookup_cons_ite name key value []
  | cons first rest ih =>
    obtain ⟨other, old⟩ := first
    unfold insertMember
    by_cases here : name = other
    · subst here
      rw [if_pos rfl, lookup_cons_ite, lookup_cons_ite]
      by_cases same : key = name <;> simp only [same, if_true, if_false]
    · rw [if_neg here]
      by_cases before : name < other
      · rw [if_pos before, lookup_cons_ite]
      · rw [if_neg before, lookup_cons_ite, lookup_cons_ite, ih]
        by_cases same : key = name
        · subst same
          rw [if_neg here, if_pos rfl, if_pos rfl]
        · rw [if_neg same, if_neg same]

section Folds

variable {ρ ε : Type}

theorem foldl_keeps {ν α : Type} (add : ν → ρ → ν) (look : ν → α) {items : List ρ}
    (kept : ∀ item ∈ items, ∀ view, look (add view item) = look view) (view : ν) :
    look (items.foldl add view) = look view :=
  List.foldlRecOn (motive := fun after => look after = look view) items add rfl
    fun before same item member => (kept item member before).trans same

/-- A fold that puts the entry of each item in the place of the one before keeps the last entry. -/
theorem look_foldl {ν : Type} (add : ν → ρ → ν) (look : ν → Option ε) (reads : ρ → Option ε)
    (step : ∀ view item, look (add view item) = (reads item).or (look view)) (items : List ρ)
    (view : ν) :
    look (items.foldl add view) = (items.filterMap reads).getLast?.or (look view) := by
  induction items generalizing view with
  | nil => rfl
  | cons first rest ih =>
    rw [List.foldl_cons, ih, step]
    cases added : reads first with
    | none => simp [added]
    | some entry =>
      rw [List.filterMap_cons_some added, List.getLast?_cons]
      cases (rest.filterMap reads).getLast? <;> rfl

/-- Where there is one entry that items may have, and some item has it, the last one is that. -/
theorem getLast?_filterMap {reads : ρ → Option ε} {items : List ρ} (is : ε → Prop)
    (unique : ∀ entry other, is entry → is other → entry = other)
    (only : ∀ item ∈ items, ∀ entry, reads item = some entry → is entry)
    (present : ∀ entry, is entry → ∃ item ∈ items, reads item = some entry) {entry : ε} :
    (items.filterMap reads).getLast? = some entry ↔ is entry := by
  constructor
  · intro last
    obtain ⟨item, member, entered⟩ := List.mem_filterMap.mp (List.mem_of_getLast? last)
    exact only item member entry entered
  · intro isEntry
    obtain ⟨item, member, entered⟩ := present entry isEntry
    cases last : (items.filterMap reads).getLast? with
    | none =>
      rw [List.getLast?_eq_none_iff, List.filterMap_eq_nil_iff] at last
      cases (last item member).symm.trans entered
    | some other =>
      obtain ⟨item', member', entered'⟩ := List.mem_filterMap.mp (List.mem_of_getLast? last)
      rw [unique other entry (only item' member' other entered') isEntry]

end Folds

def Category.shownField : Category → Field
  | .country => .sourceCountry
  | _ => .sourceAddress

/-- What a condition of a category shows: items, and for countries a mode. -/
def Category.showing (category : Category) (condition : Condition) :
    Option AccessMode × List String :=
  match category with
  | .country =>
    (some (if condition.operator = .notWithin then .allow else .block), condition.operand.items)
  | _ => (none, condition.operand.items)

/-- What a view shows of a category and host. -/
def WafView.shown (view : WafView) (category : Category) (host : String) :
    Option (Option AccessMode × List String) :=
  match category with
  | .blacklist => (view.blacklist.lookup host).map fun items => (none, items)
  | .whitelist => (view.whitelist.lookup host).map fun items => (none, items)
  | .country => (view.countries.lookup host).map fun view => (some view.mode, view.codes)
  | _ => none

/-- The view with what a rule of a category and host says. -/
def WafView.tell (view : WafView) (category : Category) (host : String) (condition : Condition) :
    WafView :=
  match category with
  | .blacklist =>
    { view with blacklist := insertMember host condition.operand.items view.blacklist }
  | .whitelist =>
    { view with whitelist := insertMember host condition.operand.items view.whitelist }
  | .country =>
    { view with countries := insertMember host (WafView.countryOf condition) view.countries }
  | _ => view

/-- A rule reads as the condition that is wanted of its category and host. -/
def RemoteRule.Reads (want : Category → String → Option Condition) (rule : RemoteRule) : Prop :=
  ∀ category host, Category.parseTag? rule.tag = some (category, host) → category.InView →
    ∃ condition, want category host = some condition ∧
      rule.readingOn category.shownField = (some (host, condition), [])

section

variable {want : Category → String → Option Condition} {rule : RemoteRule} {view : WafView}

private theorem WafView.skip_nil (view : WafView) : view.skip [] = view := by
  cases view
  simp [WafView.skip]

theorem WafView.shown_tell {about category : Category} (inView : about.InView)
    (inView' : category.InView) (view : WafView) (named host : String) (condition : Condition) :
    (view.tell about named condition).shown category host =
      if (about, named) = (category, host) then some (category.showing condition)
      else view.shown category host := by
  cases about with
  | blacklist | whitelist | country =>
    cases category with
    | blacklist | whitelist | country =>
      by_cases same : host = named
      · subst same
        simp [WafView.tell, WafView.shown, lookup_insertMember, Category.showing,
          WafView.countryOf]
      · have same' : named ≠ host := Ne.symm same
        simp [WafView.tell, WafView.shown, lookup_insertMember, same, same']
    | _ => exact inView'.elim
  | _ => exact inView.elim

private theorem WafView.add_of_reading {about : Category} {named : String} {condition : Condition}
    (parsed : Category.parseTag? rule.tag = some (about, named)) (inView : about.InView)
    (reading : rule.readingOn about.shownField = (some (named, condition), []))
    (view : WafView) : view.add rule = view.tell about named condition := by
  unfold WafView.add RemoteRule.category?
  rw [parsed]
  cases about with
  | blacklist | whitelist | country =>
    simp only [Category.shownField] at reading
    simp only [Option.map_some, reading, WafView.skip_nil, WafView.tell]
  | _ => exact inView.elim

private theorem WafView.add_of_hidden {about : Category} {named : String}
    (parsed : Category.parseTag? rule.tag = some (about, named)) (hidden : ¬ about.InView)
    (view : WafView) : view.add rule = view := by
  unfold WafView.add RemoteRule.category?
  rw [parsed]
  cases about with
  | blacklist | whitelist | country => exact absurd trivial hidden
  | _ => rfl

theorem WafView.tell_skipped (view : WafView) (category : Category) (host : String)
    (condition : Condition) : (view.tell category host condition).skipped = view.skipped := by
  cases category <;> rfl

private theorem WafView.add_shown (reads : rule.Reads want) (view : WafView) :
    (view.add rule).skipped = view.skipped ∧
      ∀ category : Category, category.InView → ∀ host, (view.add rule).shown category host =
        if Category.parseTag? rule.tag = some (category, host) then
          (want category host).map category.showing
        else view.shown category host := by
  cases parsed : Category.parseTag? rule.tag with
  | none =>
    have same : view.add rule = view := by
      unfold WafView.add RemoteRule.category?
      rw [parsed]
      rfl
    rw [same]
    exact ⟨rfl, fun category inView host => by simp⟩
  | some found =>
    obtain ⟨about, named⟩ := found
    by_cases inView : about.InView
    · obtain ⟨condition, wanted, reading⟩ := reads about named parsed inView
      rw [WafView.add_of_reading parsed inView reading]
      refine ⟨view.tell_skipped about named condition, fun category inView' host => ?_⟩
      rw [WafView.shown_tell inView inView']
      by_cases same : (about, named) = (category, host)
      · obtain ⟨rfl, rfl⟩ := Prod.mk.inj same
        simp [wanted]
      · rw [if_neg same, if_neg fun same' => same (Option.some.inj same')]
    · rw [WafView.add_of_hidden parsed inView]
      refine ⟨rfl, fun category inView' host => ?_⟩
      rw [if_neg]
      intro same
      obtain ⟨rfl, -⟩ := Prod.mk.inj (Option.some.inj same)
      exact inView inView'

private theorem WafView.foldl_shown {rules : List RemoteRule}
    (reads : ∀ rule ∈ rules, rule.Reads want) (view : WafView) :
    (rules.foldl WafView.add view).skipped = view.skipped ∧
      ∀ category : Category, category.InView → ∀ host,
        (rules.foldl WafView.add view).shown category host =
          if ∃ rule ∈ rules, Category.parseTag? rule.tag = some (category, host) then
            (want category host).map category.showing
          else view.shown category host := by
  induction rules generalizing view with
  | nil => exact ⟨rfl, fun category inView host => by simp⟩
  | cons first rest ih =>
    simp only [List.forall_mem_cons] at reads
    obtain ⟨skipped, shown⟩ := WafView.add_shown reads.1 view
    obtain ⟨skipped', shown'⟩ := ih reads.2 (view.add first)
    refine ⟨skipped'.trans skipped, fun category inView host => ?_⟩
    rw [List.foldl_cons, shown' category inView host, shown category inView host]
    by_cases here : Category.parseTag? first.tag = some (category, host) <;>
      simp [here]

theorem readingOn_of_compile {host : String} {condition : Condition}
    (compiled : Expression.compile (Group.single condition) host = .ok rule.expression)
    (tame : Expression.Tame condition) (canonical : condition.readBack = condition) :
    rule.readingOn condition.field = (some (host, condition), []) := by
  have read := Expression.decompile_of_compile compiled fun group member c listed => by
    obtain rfl := List.mem_singleton.mp member
    obtain rfl := List.mem_singleton.mp listed
    exact tame
  have groups : (Group.canonical ((Group.single condition).map Expression.readBackGroup)).flatMap
      (·.conditions) = [condition] := by
    have whole : (Group.canonical ((Group.single condition).map
        Expression.readBackGroup)).flatMap (·.conditions) = [condition.readBack] := rfl
    rw [whole, canonical]
  unfold RemoteRule.readingOn RemoteRule.reading
  rw [read]
  have lossless : (⟨host, Group.canonical ((Group.single condition).map
      Expression.readBackGroup), []⟩ : Decompiled).isLossless = true := rfl
  simp only [lossless, if_true, groups, List.find?_cons, beq_self_eq_true]

private theorem reads_of_shows {store : Store} {zoneId : String} {container : Container}
    (serves : store.serving? zoneId .firewall = some container)
    (shown : ∀ category : Category, category.InView → ∀ host,
      store.Shows zoneId category host (want category host))
    (canonical : ∀ category : Category, category.InView → ∀ host condition,
      want category host = some condition →
        condition.readBack = condition ∧ condition.field = category.shownField) :
    ∀ rule ∈ container.rules, rule.Reads want := by
  intro rule member category host parsed inView
  have tag := Category.tag_of_parseTag? parsed
  have held := shown category inView host
  have listed : rule ∈ store.tagged zoneId .firewall (category.tag host) := by
    rw [Store.tagged_of_serving serves, tag]
    exact List.mem_filter.mpr ⟨member, beq_self_eq_true _⟩
  cases wanted : want category host with
  | none =>
    rw [wanted] at held
    have empty : store.tagged zoneId .firewall (category.tag host) = [] := held
    rw [empty] at listed
    nomatch listed
  | some condition =>
    rw [wanted] at held
    obtain ⟨only, alone, -, compiled, tame⟩ := held
    rw [alone] at listed
    obtain rfl := List.mem_singleton.mp listed
    obtain ⟨readBack, field⟩ := canonical category inView host condition wanted
    exact ⟨condition, rfl, field ▸ readingOn_of_compile compiled tame readBack⟩

end

/-- The rules in the container that serves a phase of a zone. -/
def Store.rulesIn (store : Store) (zoneId : String) (phase : Phase) : List RemoteRule :=
  match store.serving? zoneId phase with
  | some container => container.rules
  | none => []

theorem ofRules_shown {want : Category → String → Option Condition} {store : Store}
    {zoneId : String} (shown : ∀ category : Category, category.InView → ∀ host,
      store.Shows zoneId category host (want category host))
    (canonical : ∀ category : Category, category.InView → ∀ host condition,
      want category host = some condition →
        condition.readBack = condition ∧ condition.field = category.shownField) :
    (WafView.ofRules (store.rulesIn zoneId .firewall)).skipped = [] ∧
      ∀ category : Category, category.InView → ∀ host,
        (WafView.ofRules (store.rulesIn zoneId .firewall)).shown category host =
          (want category host).map category.showing := by
  have reads : ∀ rule ∈ store.rulesIn zoneId .firewall, rule.Reads want := by
    unfold Store.rulesIn
    cases serves : store.serving? zoneId .firewall with
    | none => exact List.forall_mem_nil _
    | some container => exact reads_of_shows serves shown canonical
  obtain ⟨skipped, listed⟩ := WafView.foldl_shown reads WafView.empty
  refine ⟨skipped, fun category inView host => ?_⟩
  unfold WafView.ofRules
  rw [listed category inView host]
  have held := shown category inView host
  cases wanted : want category host with
  | none =>
    have nothing : WafView.empty.shown category host = none := by
      cases category <;> rfl
    simp [nothing]
  | some condition =>
    rw [wanted] at held
    obtain ⟨rule, alone, named, -, -⟩ := held
    -- What is wanted stands under its tag in the container, so the fold meets it.
    rw [if_pos]
    have listed : rule ∈ store.tagged zoneId .firewall (category.tag host) := by simp [alone]
    unfold Store.tagged at listed
    unfold Store.rulesIn
    cases serves : store.serving? zoneId .firewall with
    | none =>
      rw [serves] at listed
      nomatch listed
    | some container =>
      rw [serves] at listed
      obtain ⟨member, tag⟩ := List.mem_filter.mp listed
      refine ⟨rule, member, ?_⟩
      rw [beq_iff_eq.mp tag]
      exact Category.parseTag?_tag (labelled_of_inView inView) named

/-- The rules of a zone for a phase can be read: no operation is failing that it takes. -/
structure Store.Readable (store : Store) (zoneId : String) (phase : Phase) : Prop where
  lists : .listContainers ∉ store.failing
  fetches : ∀ container, store.serving? zoneId phase = some container →
    .fetchContainer ∉ store.failing

theorem Store.readable_of_working {store : Store} (working : store.failing = []) (zoneId : String)
    (phase : Phase) : store.Readable zoneId phase := by
  refine ⟨?_, fun _ _ => ?_⟩ <;> simp [working]

namespace Session.Leads

variable {runId : RunId} {now : Timestamp} {session : Session Store} {zone zoneId : String}
  {phase : Phase}

theorem rulesOfZone (wellFormed : session.platform.WellFormed)
    (resolves : .resolveZone ∉ session.platform.failing)
    (readable : session.platform.Readable zoneId phase)
    (known : session.platform.zones.lookup zone = some zoneId) :
    Leads runId now (View.rulesOfZone phase zone) session fun result _ =>
      result = .ok (session.platform.rulesIn zoneId phase) := by
  unfold View.rulesOfZone
  refine .bind (.resolveZone (fun fault refused => ?_) fun found known' => ?_)
  · rcases refused with failing | unknown
    · exact absurd failing resolves
    · exact nomatch unknown.symm.trans known
  · obtain rfl := Option.some.inj (known.symm.trans known')
    refine .bind (.findContainer (fun fault failing => absurd failing readable.lists) fun _ => ?_)
    cases serves : session.platform.serving? zoneId phase with
    | none =>
      have serves' : (session.logged (.resolveZone zone)).platform.serving? zoneId phase = none :=
        serves
      have nothing : session.platform.rulesIn zoneId phase = [] := by
        rw [Store.rulesIn, serves]
      rw [serves', nothing]
      exact .pure rfl
    | some container =>
      have serves' : (session.logged (.resolveZone zone)).platform.serving? zoneId phase =
          some container := serves
      have held : session.platform.rulesIn zoneId phase = container.rules := by
        rw [Store.rulesIn, serves]
      rw [serves', held]
      exact .bind (.fetchContainer (wellFormed_logged (wellFormed_logged wellFormed _) _) serves
        (fun fault failing => absurd failing (readable.fetches container serves)) (.pure rfl))

theorem readView (wellFormed : session.platform.WellFormed)
    (resolves : .resolveZone ∉ session.platform.failing)
    (readable : session.platform.Readable zoneId phase)
    (known : session.platform.zones.lookup zone = some zoneId)
    (view : List RemoteRule → View) :
    Leads runId now (do return view (← View.rulesOf phase [zone])) session fun result _ =>
      result = .ok (view (session.platform.rulesIn zoneId phase)) := by
  refine .bind (.bind ((rulesOfZone wellFormed resolves readable known).imp
    fun result after read => ?_))
  subst read
  refine .bind (.pure (.pure (.pure ?_)))
  rw [List.append_nil]

end Session.Leads

section Said

theorem lastSaid_map {α β : Type} (said? : Request → Option α) (f : α → β) (host : String)
    (requests : List Request) :
    lastSaid (fun request => (said? request).map f) host requests =
      (lastSaid said? host requests).map f := by
  unfold lastSaid
  rw [List.map_findSome?]
  congr 1
  funext request
  by_cases named : request.names host = true <;> simp [named]

variable {requests : List Request} {host : String}

private theorem wantedAfter_map {α : Type} {category : Category} {said? : Request → Option α}
    {condition? : α → Option Condition}
    (about : ∀ request : Request, request.condition? category = (said? request).map condition?) :
    wantedAfter requests (fun _ _ => none) category host =
      (lastSaid said? host requests).bind condition? := by
  have same : Request.condition? category = fun request => (said? request).map condition? :=
    funext about
  unfold wantedAfter
  rw [same, lastSaid_map]
  cases lastSaid said? host requests <;> rfl

private theorem showing_addresses (category : Category) (other : category ≠ .country)
    (said : Option (List String)) : (said.bind addressCondition?).map category.showing =
      (said.filter (!·.isEmpty)).map fun items => (none, items) := by
  cases said with
  | none => rfl
  | some addresses =>
    cases addresses with
    | nil => rfl
    | cons first rest =>
      cases category with
      | country => exact absurd rfl other
      | _ => rfl

private theorem showing_countries (said : Option CountryView) :
    (said.bind countryCondition?).map (Category.showing .country) =
      (said.filter (!·.codes.isEmpty)).map fun view => (some view.mode, view.codes) := by
  cases said with
  | none => rfl
  | some view =>
    obtain ⟨mode, codes⟩ := view
    cases codes with
    | nil => rfl
    | cons first rest => cases mode <;> rfl

private theorem canonical_of_addresses {said : Option (List String)} {condition : Condition}
    (wanted : said.bind addressCondition? = some condition) :
    condition.readBack = condition ∧ condition.field = .sourceAddress := by
  obtain ⟨addresses, -, listed⟩ := Option.bind_eq_some_iff.mp wanted
  unfold addressCondition? at listed
  split at listed
  · nomatch listed
  · obtain rfl := Option.some.inj listed
    exact ⟨rfl, rfl⟩

private theorem canonical_of_countries {said : Option CountryView} {condition : Condition}
    (wanted : said.bind countryCondition? = some condition) :
    condition.readBack = condition ∧ condition.field = .sourceCountry := by
  obtain ⟨⟨mode, codes⟩, -, listed⟩ := Option.bind_eq_some_iff.mp wanted
  unfold countryCondition? at listed
  split at listed
  · nomatch listed
  · obtain rfl := Option.some.inj listed
    cases mode <;> exact ⟨rfl, rfl⟩

private theorem wantedAfter_blacklist (requests : List Request) (host : String) :
    wantedAfter requests (fun _ _ => none) .blacklist host =
      (lastSaid Request.blocked? host requests).bind addressCondition? :=
  wantedAfter_map fun _ => rfl

private theorem wantedAfter_whitelist (requests : List Request) (host : String) :
    wantedAfter requests (fun _ _ => none) .whitelist host =
      (lastSaid Request.allowed? host requests).bind addressCondition? :=
  wantedAfter_map fun _ => rfl

private theorem wantedAfter_country (requests : List Request) (host : String) :
    wantedAfter requests (fun _ _ => none) .country host =
      (lastSaid Request.countries? host requests).bind countryCondition? :=
  wantedAfter_map fun _ => rfl

private theorem canonical_of_wantedAfter {category : Category} (inView : category.InView)
    {condition : Condition}
    (wanted : wantedAfter requests (fun _ _ => none) category host = some condition) :
    condition.readBack = condition ∧ condition.field = category.shownField := by
  cases category with
  | blacklist =>
    rw [wantedAfter_blacklist] at wanted
    exact canonical_of_addresses wanted
  | whitelist =>
    rw [wantedAfter_whitelist] at wanted
    exact canonical_of_addresses wanted
  | country =>
    rw [wantedAfter_country] at wanted
    exact canonical_of_countries wanted
  | _ => exact inView.elim

private theorem countryView_injective :
    Function.Injective fun view : CountryView => (some view.mode, view.codes) := by
  intro first second same
  obtain ⟨modes, codes⟩ := Prod.mk.inj same
  cases first
  cases second
  cases modes
  cases codes
  rfl

end Said

/-- The view of a zone shows, host by host, the addresses and countries that the last successful
request about the host left, and nothing else. -/
theorem readWaf_applied {zone zoneId : String} {requests : List Request}
    {session after : Session Store} (zones : session.platform.zones = [(zone, zoneId)])
    (empty : session.platform.containers = []) (working : session.platform.failing = [])
    (applied : Session.Applied requests session after) (runId : RunId) (now : Timestamp) :
    ∃ view, (onStore runId now (View.read [zone] .waf) after).1 = .ok (.waf view) ∧
      view.skipped = [] ∧
      (∀ host, view.blacklist.lookup host =
        (lastSaid Request.blocked? host requests).filter (!·.isEmpty)) ∧
      (∀ host, view.whitelist.lookup host =
        (lastSaid Request.allowed? host requests).filter (!·.isEmpty)) ∧
      ∀ host, view.countries.lookup host =
        (lastSaid Request.countries? host requests).filter (!·.codes.isEmpty) := by
  have tracks := (Session.Tracks.of_empty zones working empty).applied applied
  obtain ⟨skipped, shown⟩ := ofRules_shown tracks.shown fun category inView host condition wanted =>
    canonical_of_wantedAfter inView wanted
  have known : after.platform.zones.lookup zone = some zoneId := by
    rw [tracks.zones, List.lookup_cons_self]
  have resolves : .resolveZone ∉ after.platform.failing := by simp [tracks.failing]
  have readable := Store.readable_of_working tracks.failing zoneId .firewall
  refine ⟨_, Leads.readView tracks.wellFormed resolves readable known
      fun rules => .waf (.ofRules rules),
    skipped, fun host => ?_, fun host => ?_, fun host => ?_⟩
  · have listed := shown .blacklist trivial host
    rw [wantedAfter_blacklist, showing_addresses .blacklist (by decide)] at listed
    exact Option.map_injective (fun _ _ same => (Prod.mk.inj same).2) listed
  · have listed := shown .whitelist trivial host
    rw [wantedAfter_whitelist, showing_addresses .whitelist (by decide)] at listed
    exact Option.map_injective (fun _ _ same => (Prod.mk.inj same).2) listed
  · have listed := shown .country trivial host
    rw [wantedAfter_country, showing_countries] at listed
    exact Option.map_injective countryView_injective listed

/-- A host is given addresses and countries, and a second one addresses that are removed again. -/
def sampleRequests : List Request :=
  [.blacklist ⟨[⟨"example.com", "a.example.com"⟩, ⟨"example.com", "b.example.com"⟩],
      ["10.0.0.1", "2001:db8::/32"]⟩,
    .country ⟨[⟨"example.com", "a.example.com"⟩], [⟨" de ", none⟩], .allow⟩,
    .teardown ⟨[⟨"example.com", "b.example.com"⟩]⟩]

/-- A platform with one zone. -/
def oneZone : Session Store :=
  ⟨Store.empty.addZone "example.com" "zone", .empty "journal"⟩

theorem applied_of_isOk {request : Request} {rest : List Request} {session after : Session Store}
    (ok : (onStore default default request.apply session).1.isOk = true)
    (more : Session.Applied rest (onStore default default request.apply session).2 after) :
    Session.Applied (request :: rest) session after := by
  rcases reached : onStore default default request.apply session with ⟨result, middle⟩
  rw [reached] at ok more
  cases result with
  | error fault => nomatch ok
  | ok reports => exact .request default default reports reached more

private theorem applied_sampleRequests : ∃ after, Session.Applied sampleRequests oneZone after :=
  ⟨_, applied_of_isOk (by decide +kernel) (applied_of_isOk (by decide +kernel)
    (applied_of_isOk (by decide +kernel) (.none _)))⟩

theorem readWaf_applied_sample : ∃ after, Session.Applied sampleRequests oneZone after ∧
    ∃ view, (onStore default default (View.read ["example.com"] .waf) after).1 = .ok (.waf view) ∧
      view.skipped = [] ∧
      (∀ host, view.blacklist.lookup host =
        (lastSaid Request.blocked? host sampleRequests).filter (!·.isEmpty)) ∧
      (∀ host, view.whitelist.lookup host =
        (lastSaid Request.allowed? host sampleRequests).filter (!·.isEmpty)) ∧
      ∀ host, view.countries.lookup host =
        (lastSaid Request.countries? host sampleRequests).filter (!·.codes.isEmpty) := by
  obtain ⟨after, applied⟩ := applied_sampleRequests
  exact ⟨after, applied, readWaf_applied rfl rfl rfl applied default default⟩

end EdgePolicy
