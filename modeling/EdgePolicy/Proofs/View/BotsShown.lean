import EdgePolicy.Proofs.View.Bots
import EdgePolicy.Proofs.View.ReadBack
import EdgePolicy.Proofs.View.Readable

/-
The view of bot rules shows what was requested.

A bot rule reads as the condition that it was made from (`BotsMade.reading`), and the view keeps the
last entry of a host, so it shows the source of the rule under its tag.  It shows the categories of
verified bots as the items of the operand: a set is its items, but a single category is split at its
commas and trimmed (`Session.not_readBots_requested`).
-/

set_option autoImplicit false
set_option relaxedAutoImplicit false

namespace EdgePolicy

open Session (Leads onStore)

def BotSource.known (source : BotSource) : KnownBotRule :=
  ⟨source.condition.operand == .flag true, source.action⟩

def BotSource.verified (source : BotSource) : VerifiedBotRule :=
  ⟨source.condition.operator, source.condition.operand.items, source.action⟩

/-- The rules with the tags of a bot category were made from what is wanted, and no others. -/
def BotsMade (want : Category → String → Option BotSource) (rules : List RemoteRule)
    (category : Category) : Prop :=
  ∀ host, BotsFrom category host (want category host) (rules.filter (·.tag == category.tag host))

section Made

variable {want : Category → String → Option BotSource} {rules : List RemoteRule}
  {category : Category} {rule : RemoteRule} {host : String} {source : BotSource}

/-- A rule under the tag of a category and host reads as what is wanted of them. -/
theorem BotsMade.reading (made : BotsMade want rules category) (member : rule ∈ rules)
    (tag : rule.tag = category.tag host) : ∃ source, want category host = some source ∧
      rule.action = source.action ∧
      rule.readingOn category.botField = (some (host, source.condition), []) := by
  have held := made host
  cases wanted : want category host with
  | none =>
    rw [wanted] at held
    exact absurd (beq_iff_eq.mpr tag) (List.filter_eq_nil_iff.mp held rule member)
  | some source =>
    rw [wanted] at held
    obtain ⟨isFor, only, alone, action, compiled⟩ := held
    obtain rfl := (RemoteRule.eq_alone_iff alone).mp ⟨member, tag⟩
    have read := readingOn_of_compile compiled (BotSource.tame isFor) isFor.canonical
    rw [isFor.field] at read
    exact ⟨source, rfl, action, read⟩

theorem BotsMade.present (made : BotsMade want rules category)
    (wanted : want category host = some source) :
    ∃ rule ∈ rules, rule.tag = category.tag host ∧ host ≠ "" := by
  have held := made host
  rw [wanted] at held
  obtain ⟨-, rule, alone, -, compiled⟩ := held
  obtain ⟨member, tag⟩ := (RemoteRule.eq_alone_iff alone).mpr rfl
  refine ⟨rule, member, tag, ?_⟩
  rintro rfl
  exact nomatch compiled

end Made

namespace BotView

variable {rules : List RemoteRule} {rule : RemoteRule} {category : Category} {host : String}
  {want : Category → String → Option BotSource}

/-- What a rule says of a bot category and host. -/
def entryOf? (category : Category) (host : String) (rule : RemoteRule) : Option BotSource :=
  match rule.category?, rule.readingOn category.botField with
  | some other, (some (named, condition), _) =>
    if other = category ∧ named = host then some ⟨rule.action, condition⟩ else none
  | _, _ => none

private theorem entryOf?_of_category (categorized : rule.category? = some category) :
    entryOf? category host rule = (rule.readingOn category.botField).1.bind fun told =>
      if told.1 = host then some ⟨rule.action, told.2⟩ else none := by
  unfold entryOf?
  rw [categorized]
  rcases rule.readingOn category.botField with ⟨_ | told, listed⟩ <;> simp

private theorem entryOf?_of_other (other : rule.category? ≠ some category) :
    entryOf? category host rule = none := by
  unfold entryOf?
  split
  · next about named condition listed categorized reading =>
    rw [if_neg]
    rintro ⟨rfl, -⟩
    exact other categorized
  · rfl

private theorem lookup_put {α : Type} (named host : String) (shown : BotSource → α)
    (source : BotSource) (entries : List (String × α)) :
    (Json.insertMember named (shown source) entries).lookup host =
      ((if named = host then some source else none).map shown).or (entries.lookup host) := by
  rw [lookup_insertMember]
  by_cases same : host = named
  · subst same
    simp
  · simp [same, Ne.symm same]

theorem lookup_add (view : BotView) (rule : RemoteRule) (host : String) :
    (view.add rule).knownBots.lookup host =
      ((entryOf? .knownBot host rule).map BotSource.known).or (view.knownBots.lookup host) ∧
    (view.add rule).verifiedBots.lookup host =
      ((entryOf? .verifiedBot host rule).map BotSource.verified).or
        (view.verifiedBots.lookup host) := by
  unfold add
  split
  · next known =>
    have other : rule.category? ≠ some .verifiedBot := by simp [known]
    rw [entryOf?_of_category known, entryOf?_of_other other]
    simp only [Category.botField]
    rcases rule.readingOn .knownBot with ⟨_ | ⟨named, condition⟩, listed⟩
    · exact ⟨rfl, rfl⟩
    · exact ⟨lookup_put named host BotSource.known ⟨rule.action, condition⟩ view.knownBots, rfl⟩
  · next verified =>
    have other : rule.category? ≠ some .knownBot := by simp [verified]
    rw [entryOf?_of_category verified, entryOf?_of_other other]
    simp only [Category.botField]
    rcases rule.readingOn .verifiedBotCategory with ⟨_ | ⟨named, condition⟩, listed⟩
    · exact ⟨rfl, rfl⟩
    · exact ⟨rfl,
        lookup_put named host BotSource.verified ⟨rule.action, condition⟩ view.verifiedBots⟩
  · next known verified =>
    rw [entryOf?_of_other known, entryOf?_of_other verified]
    exact ⟨rfl, rfl⟩

theorem skipped_add (view : BotView) (read : ∀ category : Category, category.IsBot →
      rule.category? = some category → ∃ entry, rule.readingOn category.botField = (some entry, [])) :
    (view.add rule).skipped = view.skipped := by
  unfold add
  rcases categorized : rule.category? with _ | category
  · rfl
  · cases category with
    | knownBot =>
      obtain ⟨⟨named, condition⟩, reading⟩ := read .knownBot trivial categorized
      simp only [Category.botField] at reading
      simp [reading, skip]
    | verifiedBot =>
      obtain ⟨⟨named, condition⟩, reading⟩ := read .verifiedBot trivial categorized
      simp only [Category.botField] at reading
      simp [reading, skip]
    | _ => rfl

section Made

variable (made : ∀ category : Category, category.IsBot → BotsMade want rules category)

include made

private theorem entries_eq (bot : category.IsBot) (host : String) :
    (rules.filterMap (entryOf? category host)).getLast? = want category host := by
  refine Option.ext fun source => getLast?_filterMap (fun source => want category host = some source)
    ?_ (fun rule member source entered => ?_) fun source wanted => ?_
  · exact fun source other wanted wanted' => Option.some.inj (wanted.symm.trans wanted')
  · unfold entryOf? at entered
    split at entered
    · next other named condition listed categorized reading =>
      split at entered
      · next same =>
        obtain ⟨rfl, rfl⟩ := same
        obtain ⟨domain, tag⟩ := RemoteRule.tag_of_category? categorized
        obtain ⟨source', wanted, action, read⟩ := (made other bot).reading member tag
        cases reading.symm.trans read
        rw [wanted, ← entered, action]
      · cases entered
    · cases entered
  · obtain ⟨rule, member, tag, named⟩ := (made category bot).present wanted
    have categorized := RemoteRule.category?_of_tag (Category.labelled_of_isBot bot) named tag
    obtain ⟨source', wanted', action, read⟩ := (made category bot).reading member tag
    obtain rfl := Option.some.inj (wanted.symm.trans wanted')
    refine ⟨rule, member, ?_⟩
    unfold entryOf?
    rw [categorized, read]
    simp [action]

theorem ofRules_shown : (ofRules rules).skipped = [] ∧ ∀ host,
    (ofRules rules).knownBots.lookup host = (want .knownBot host).map BotSource.known ∧
    (ofRules rules).verifiedBots.lookup host =
      (want .verifiedBot host).map BotSource.verified := by
  have last : ∀ {category : Category} (_ : category.IsBot) (host : String) {α : Type}
      (shown : BotSource → α), (rules.filterMap fun rule => (entryOf? category host rule).map
        shown).getLast? = (want category host).map shown := by
    intro category bot host α shown
    rw [← List.map_filterMap, List.getLast?_map, entries_eq made bot]
  refine ⟨?_, fun host => ⟨?_, ?_⟩⟩
  · refine foldl_keeps add skipped
      (fun rule member view => skipped_add view fun category bot categorized => ?_) empty
    obtain ⟨domain, tag⟩ := RemoteRule.tag_of_category? categorized
    obtain ⟨source, -, -, read⟩ := (made category bot).reading member tag
    exact ⟨_, read⟩
  · have listed : (ofRules rules).knownBots.lookup host = _ :=
      look_foldl add (fun view => view.knownBots.lookup host) _
        (fun view rule => (lookup_add view rule host).1) rules empty
    rw [listed, last (show Category.knownBot.IsBot from trivial)]
    exact Option.or_none
  · have listed : (ofRules rules).verifiedBots.lookup host = _ :=
      look_foldl add (fun view => view.verifiedBots.lookup host) _
        (fun view rule => (lookup_add view rule host).2) rules empty
    rw [listed, last (show Category.verifiedBot.IsBot from trivial)]
    exact Option.or_none

end Made

end BotView

/-- A text that stands for itself where texts are joined by commas: it is not empty, and there is no
comma and no blank end in it. -/
structure Operand.IsItem (text : String) : Prop where
  filled : text ≠ ""
  whole : ',' ∉ text.toList
  trimmed : Text.trim text = text

private theorem Operand.commaItems_of_isItem {text : String} (item : IsItem text) :
    commaItems text = [text] := by
  have whole : text.toList.splitOn ',' = [text.toList] :=
    List.splitOnP_eq_singleton fun c member => beq_false_of_ne fun same =>
      item.whole (same ▸ member)
  have trimmed : Text.trimChars text.toList = text.toList := by
    have read := congrArg String.toList item.trimmed
    rwa [Text.trim, String.toList_ofList] at read
  have filled : text.toList.isEmpty = false := by simpa using item.filled
  simp only [commaItems, whole, List.map_cons, List.map_nil, trimmed, List.filterMap_cons, filled,
    Bool.false_eq_true, if_false, String.ofList_toList, List.filterMap_nil]

/-- The rule that is requested: an equality is with the first category alone, and without categories
there is no rule. -/
def VerifiedBotRule.asked? (rule : VerifiedBotRule) : Option VerifiedBotRule :=
  rule.categories.head?.map fun first =>
    { rule with categories := if rule.operator.takesSet then rule.categories else [first] }

/-- A category that stands alone is an item. -/
def VerifiedBotRule.IsPlain (rule : VerifiedBotRule) : Prop :=
  rule.operator.takesSet = false → ∀ first, rule.categories.head? = some first →
    Operand.IsItem first

private theorem VerifiedBotRule.verified_source {rule : VerifiedBotRule}
    (compares : rule.operator.comparesCategories = true) (plain : rule.IsPlain) :
    rule.source?.map BotSource.verified = rule.asked? := by
  obtain ⟨operator, categories, action⟩ := rule
  unfold VerifiedBotRule.source? VerifiedBotRule.asked?
  rw [Option.map_map]
  refine Option.map_congr fun first head => ?_
  have alone : operator.takesSet = false → Operand.commaItems first = [first] := fun single =>
    Operand.commaItems_of_isItem (plain single first head)
  cases operator with
  | eq | ne =>
    have shown := alone rfl
    simpa [BotSource.verified, Condition.of, DesiredRule.categoryOperand, Operand.canonical,
      Operand.items, Operator.takesSet] using shown
  | within | notWithin => rfl
  | _ => cases compares

private theorem KnownBotRule.known_source (rule : KnownBotRule) : rule.source.known = rule := by
  obtain ⟨value, action⟩ := rule
  cases value <;> rfl

/-- A request for bot rules. -/
def Request.isBot : Request → Bool
  | knownBot _ | verifiedBot _ => true
  | _ => false

section Applied

variable {zone zoneId : String} {start before after : Session Store} {request : Request}
  {runId : RunId} {now : Timestamp} {reports : List Report}

private theorem holds_of_bare (zones : start.platform.zones = [(zone, zoneId)])
    (wellFormed : start.platform.WellFormed)
    (bare : ∀ container ∈ start.platform.containers, container.rules = []) :
    botTopic.Holds zone zoneId (fun _ _ => none) start := by
  refine ⟨zones, wellFormed, fun category _ host => ?_⟩
  show start.platform.tagged zoneId category.phase (category.tag host) = []
  cases serves : start.platform.serving? zoneId category.phase with
  | none => exact Store.tagged_of_none serves _
  | some container =>
    rw [Store.tagged_of_serving serves, bare container (Store.serving?_eq_some serves).1]
    rfl

private theorem targets_ne_nil_of_isBot (bot : request.isBot = true)
    (valid : request.validate = .ok ()) :
    request.targets ≠ [] := by
  have listed : ∀ subdomains, (Subdomain.validateAll subdomains).isOk = true → subdomains ≠ [] := by
    rintro _ ok rfl
    nomatch ok
  cases request with
  | knownBot bots =>
    have valid' : Subdomain.validateAll bots.subdomains = .ok () := valid
    exact listed bots.subdomains (by rw [valid']; rfl)
  | verifiedBot bots =>
    have valid' : bots.validate = .ok () := valid
    obtain ⟨⟨⟩, hosts, -⟩ := bind_eq_ok.mp valid'
    exact listed bots.subdomains (by rw [hosts]; rfl)
  | _ => nomatch bot

private theorem phase_of_isBot_request (bot : request.isBot = true) {host : String}
    {rules : List DesiredRule} (made : request.desired host = .ok rules) :
    rules ≠ [] ∧ ∀ desired ∈ rules, desired.category.phase = .firewall := by
  obtain ⟨category, isBot, want, asked⟩ : ∃ category : Category, category.IsBot ∧
      ∃ want, request.botSource? category = some want := by
    cases request with
    | knownBot bots => exact ⟨.knownBot, trivial, _, rfl⟩
    | verifiedBot bots => exact ⟨.verifiedBot, trivial, _, rfl⟩
    | _ => nomatch bot
  obtain ⟨desired, rfl, isOf, -⟩ := makesBot_of_request made asked
  refine ⟨List.cons_ne_nil _ _, List.forall_mem_singleton.mpr ?_⟩
  rw [isOf.category, Category.phase_of_isBot isBot]

/-- Bot rules read back as they were requested.  After any history of requests to a platform with
one zone and no other rules, a bot request that succeeds shows for every host that it names the
requested action and flag, or action, operator and categories, and no entry where there is to be no
rule; nothing is left over.  A category that stands alone has to be an item. -/
theorem Session.readBots_requested (zones : start.platform.zones = [(zone, zoneId)])
    (wellFormed : start.platform.WellFormed)
    (bare : ∀ container ∈ start.platform.containers, container.rules = [])
    (requested : Session.Requested start before) (bot : request.isBot = true)
    (applied : onStore runId now request.apply before = (.ok reports, after)) (runId' : RunId)
    (now' : Timestamp) :
    ∃ view, (onStore runId' now' (View.read [zone] .bot) after).1 = .ok (.bot view) ∧
      view.skipped = [] ∧
      (∀ bots, request = .knownBot bots → ∀ host, request.names host = true →
        view.knownBots.lookup host = bots.rule) ∧
      ∀ bots, request = .verifiedBot bots → (∀ rule, bots.rule = some rule → rule.IsPlain) →
        ∀ host, request.names host = true →
          view.verifiedBots.lookup host = bots.rule.bind VerifiedBotRule.asked? := by
  obtain ⟨planned, made⟩ := plan_of_apply applied
  obtain ⟨valid, -, -⟩ := Request.plan_eq_ok made
  obtain ⟨want, holds⟩ := requested.holds (fun _ _ made => settles_botTopic made)
    (holds_of_bare zones wellFormed bare)
  have holds' := (holds.apply_leads (servedBy_botTopic request)).elim applied
  obtain ⟨resolves, readable⟩ := (Request.apply_readable holds.zones
    (targets_ne_nil_of_isBot bot valid) fun host rules => phase_of_isBot_request bot).elim applied rfl
  have known : after.platform.zones.lookup zone = some zoneId := by
    rw [holds'.zones, List.lookup_cons_self]
  have bots : ∀ category : Category, category.IsBot → BotsMade (botTopic.update request
      (request.targets.map (·.name)) want) (after.platform.rulesIn zoneId .firewall) category := by
    intro category isBot host
    have borne := holds'.borne category isBot host
    rwa [Store.tagged_eq, Category.phase_of_isBot isBot] at borne
  obtain ⟨skipped, shown⟩ := BotView.ofRules_shown bots
  refine ⟨_, Leads.readView holds'.wellFormed resolves readable known
    fun rules => .bot (.ofRules rules), skipped, ?_, ?_⟩
  · rintro sent rfl host named
    rw [(shown host).1, Topic.update, if_pos (names_iff.mp named)]
    show (sent.rule.map KnownBotRule.source).map BotSource.known = sent.rule
    rw [Option.map_map]
    exact (Option.map_congr fun rule _ => rule.known_source).trans Option.map_id'
  · rintro sent rfl plain host named
    rw [(shown host).2, Topic.update, if_pos (names_iff.mp named)]
    show (sent.rule.bind VerifiedBotRule.source?).map BotSource.verified = _
    rw [Option.map_bind]
    refine Option.bind_congr fun rule given => ?_
    exact VerifiedBotRule.verified_source (compares_of_valid valid given) (plain rule given)

end Applied

/-- A rule for verified bots of one host. -/
def categoryRequest (operator : Operator) (categories : List String) : VerifiedBotRequest :=
  ⟨[⟨"example.com", "a.example.com"⟩], some ⟨operator, categories, .block⟩⟩

/-- What requests one after the other make of a platform with one zone. -/
def botSession (requests : List VerifiedBotRequest) : Session Store :=
  requests.foldl (fun session request =>
    (onStore default default (Request.verifiedBot request).apply session).2) oneZone

/-- A category that holds a comma is requested alone, then as one of two. -/
theorem Session.readBots_requested_sample :
    Session.Requested oneZone (botSession [categoryRequest .eq ["Search, Crawler"]]) ∧
      ∃ view, (onStore default default (View.read ["example.com"] .bot)
          (botSession [categoryRequest .eq ["Search, Crawler"],
            categoryRequest .notWithin ["Search, Crawler", "AI"]])).1 = .ok (.bot view) ∧
        view.skipped = [] ∧ view.verifiedBots.lookup "a.example.com" =
          some ⟨.notWithin, ["Search, Crawler", "AI"], .block⟩ := by
  have bare : ∀ container ∈ oneZone.platform.containers, container.rules = [] := nofun
  have wellFormed : oneZone.platform.WellFormed :=
    Store.wellFormed_empty.of_containers_eq rfl (Nat.le_refl _)
  have requested : Session.Requested oneZone
      (botSession [categoryRequest .eq ["Search, Crawler"]]) :=
    .applied default default (.verifiedBot (categoryRequest .eq ["Search, Crawler"])) (.done _)
  have ok : (onStore default default
      (Request.verifiedBot (categoryRequest .notWithin ["Search, Crawler", "AI"])).apply
      (botSession [categoryRequest .eq ["Search, Crawler"]])).1.isOk = true := by
    decide +kernel
  refine ⟨requested, ?_⟩
  show ∃ view, (onStore default default (View.read ["example.com"] .bot) (onStore default default
    (Request.verifiedBot (categoryRequest .notWithin ["Search, Crawler", "AI"])).apply
    (botSession [categoryRequest .eq ["Search, Crawler"]])).2).1 = .ok (.bot view) ∧ _
  rcases reached : onStore default default
      (Request.verifiedBot (categoryRequest .notWithin ["Search, Crawler", "AI"])).apply
      (botSession [categoryRequest .eq ["Search, Crawler"]]) with ⟨result, after⟩
  rw [reached] at ok
  cases result with
  | error fault => nomatch ok
  | ok reports =>
    obtain ⟨view, read, skipped, -, shown⟩ :=
      readBots_requested rfl wellFormed bare requested rfl reached default default
    refine ⟨view, read, skipped, shown _ rfl ?_ "a.example.com" (by decide)⟩
    rintro _ ⟨⟩ single
    nomatch single

/-- A category that stands alone is shown in pieces when it holds a comma. -/
theorem Session.not_readBots_requested :
    (onStore default default
      (Request.verifiedBot (categoryRequest .eq ["Search, Crawler"])).apply oneZone).1.isOk = true ∧
    ∃ view, (onStore default default (View.read ["example.com"] .bot)
        (botSession [categoryRequest .eq ["Search, Crawler"]])).1 = .ok (.bot view) ∧
      view.verifiedBots.lookup "a.example.com" = some ⟨.eq, ["Search", "Crawler"], .block⟩ ∧
      VerifiedBotRule.asked? ⟨.eq, ["Search, Crawler"], .block⟩ =
        some ⟨.eq, ["Search, Crawler"], .block⟩ := by
  have shown : (onStore default default (View.read ["example.com"] .bot)
      (botSession [categoryRequest .eq ["Search, Crawler"]])).1.toOption = some (.bot ⟨[],
        [("a.example.com", ⟨.eq, ["Search", "Crawler"], .block⟩)], []⟩) := by
    decide +kernel
  refine ⟨by decide +kernel, ⟨[], [("a.example.com", ⟨.eq, ["Search", "Crawler"], .block⟩)], []⟩,
    ?_, rfl, rfl⟩
  cases read : (onStore default default (View.read ["example.com"] .bot)
      (botSession [categoryRequest .eq ["Search, Crawler"]])).1 with
  | error fault =>
    rw [read] at shown
    nomatch shown
  | ok view =>
    rw [read] at shown
    exact congrArg Except.ok (Option.some.inj shown)

end EdgePolicy
