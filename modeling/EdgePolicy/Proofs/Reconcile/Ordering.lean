import EdgePolicy.Proofs.Reconcile.History

/-
The order in which the rules of the firewall container are evaluated.

Rules that allow addresses stand before rules that block them, whatever is reconciled
(`allowed_before_blocked`).  Country rules stand behind both only as long as no rule about addresses
is created for want of an anchor behind a country rule (`countries_last`): such a rule goes to the
end, and rules are never moved.
-/

set_option autoImplicit false
set_option relaxedAutoImplicit false

namespace EdgePolicy

open Session (onStore)

namespace DesiredRule

variable {desired : DesiredRule} {container : Container} {outcome : Outcome}
  {rules : List RemoteRule} {issued number : Nat} {first second : Category}

theorem replaced_of_nodup {tag : String} {old rule : RemoteRule}
    (ids : (container.rules.map (·.id)).Nodup)
    (was : container.rules.filter (·.tag == tag) = [old])
    (here : container.rules.find? (·.id == old.id) = some rule) (new : RemoteRule) :
    rule = old ∧ old.tag = tag ∧ ∃ front back, container.rules = front ++ old :: back ∧
      container.rules.set (container.rules.findIdx (·.id == old.id)) new =
        front ++ new :: back := by
  obtain ⟨front, back, shape, tagged, -, -⟩ := filter_eq_singleton was
  obtain ⟨here', replaced⟩ := Store.replace_of_nodup ids shape new
  exact ⟨Option.some.inj (here.symm.trans here'), eq_of_beq tagged, front, back, shape, replaced⟩

theorem Revision.edit (revision : desired.Revision container number outcome rules issued)
    (ids : (container.rules.map (·.id)).Nodup) :
    rules = container.rules ∧ issued = number ∨
      RuleEdit (· = desired.tag) number issued container.rules rules := by
  cases revision with
  | kept rule? was accepted => exact .inl ⟨rfl, rfl⟩
  | created body index wanted was placed =>
    have bound := Store.index?_le placed
    have split : container.rules = container.rules.take index ++ container.rules.drop index :=
      (List.take_append_drop index container.rules).symm
    rw [insertIdx_eq_append _ bound]
    right
    nth_rewrite 1 [split]
    exact .insert _ _ _ rfl rfl
  | patched body old rule wanted was differs here =>
    obtain ⟨rfl, tag, front, back, shape, replaced⟩ := replaced_of_nodup ids was here
      (Store.patched rule (body.request desired.tag none))
    rw [replaced, shape]
    exact .inr (.replace front back rule _ tag rfl rfl)
  | deleted old unwanted was =>
    obtain ⟨front, back, shape, tagged, -, -⟩ := filter_eq_singleton was
    rw [Store.drop_of_nodup ids shape, shape]
    exact .inr (.remove front back old (eq_of_beq tagged))

theorem Revision.numbered (revision : desired.Revision container number outcome rules issued)
    (numbered : Numbered number container.rules) : Numbered issued rules := by
  rcases revision.edit numbered.ids with ⟨rfl, rfl⟩ | edit
  · exact numbered
  · exact numbered.edited edit

private theorem Revision.precedes
    (revision : desired.Revision container number outcome rules issued)
    (numbered : Numbered number container.rules)
    (ordered : first.Precedes second container.rules)
    (apart : ∀ ruleId position? front back, outcome = .created ruleId position? →
      container.rules = front ++ back → Placed desired.category.anchor? position? front back →
        (first = desired.category → ∀ rule ∈ front, second.ownsTag rule.tag = false) ∧
          (second = desired.category → ∀ rule ∈ back, first.ownsTag rule.tag = false)) :
    first.Precedes second rules := by
  cases revision with
  | kept rule? was accepted => exact ordered
  | created body index wanted was placed =>
    obtain ⟨front, back, shape, place⟩ := desired.category.placed container.snapshot
    have shape' : container.rules = front ++ back := shape
    have ids := numbered.ids
    rw [shape'] at ids placed ordered ⊢
    obtain rfl := Except.ok.inj ((place.index? ids).symm.trans placed)
    obtain ⟨inFront, inBack⟩ := apart _ _ front back rfl shape' place
    have owner : ∀ category : Category, category.ownsTag desired.tag = true →
        category = desired.category := fun category owned =>
      Category.ownsTag_unique owned (Category.ownsTag_self desired.category desired.domain)
    rw [insertIdx_eq_append _ (by simp), List.take_left, List.drop_left]
    exact ordered.insert _ (fun owned => inFront (owner _ owned))
      fun owned => inBack (owner _ owned)
  | patched body old rule wanted was differs here =>
    obtain ⟨-, tag, front, back, shape, replaced⟩ := replaced_of_nodup numbered.ids was here
      (Store.patched rule (body.request desired.tag none))
    rw [replaced]
    rw [shape] at ordered
    exact ordered.replace tag.symm
  | deleted old unwanted was => exact ordered.sublist List.filter_sublist

end DesiredRule

/-- Rules with distinct identifiers, in which those that allow addresses stand before those that
block them. -/
structure AllowedFirst (issued : Nat) (rules : List RemoteRule) : Prop where
  numbered : Numbered issued rules
  ordered : Category.whitelist.Precedes .blacklist rules

namespace AllowedFirst

variable {desired : DesiredRule} {container : Container} {outcome : Outcome}
  {rules : List RemoteRule} {issued number : Nat}

theorem invariant : RuleInvariant AllowedFirst where
  nil issued := ⟨.nil issued, .nil _ _⟩
  mono _ _ _ later allowed := ⟨allowed.numbered.mono later, allowed.ordered⟩

/-- A new rule that allows addresses goes before all that block them, and a new rule that blocks
addresses behind all that allow them. -/
theorem revised (allowed : AllowedFirst number container.rules)
    (revision : desired.Revision container number outcome rules issued) :
    AllowedFirst issued rules := by
  refine ⟨revision.numbered allowed.numbered,
    revision.precedes allowed.numbered allowed.ordered ?_⟩
  intro ruleId position? front back created shape place
  constructor
  · intro category
    rw [← category] at place
    exact Placed.front_of_beforeFirst place
  · intro category
    rw [← category] at place
    exact Placed.back_of_afterLast place

end AllowedFirst

/-- Whatever is reconciled, and whether or not it succeeds, the rules that allow addresses stay
before those that block them in the firewall container of a zone. -/
theorem allowed_before_blocked {zoneId : String} {session last : Session Store}
    (numbered : ∀ container, session.platform.serving? zoneId .firewall = some container →
      Numbered session.platform.issued container.rules)
    (ordered : ∀ container, session.platform.serving? zoneId .firewall = some container →
      Category.whitelist.Precedes .blacklist container.rules)
    (history : Session.Reconciles (fun _ _ _ _ => True) session last) :
    (∀ container, session.platform.serving? zoneId .firewall = some container →
        ∃ container', last.platform.serving? zoneId .firewall = some container' ∧
          container'.summary = container.summary) ∧
      ∀ container, last.platform.serving? zoneId .firewall = some container →
        Category.whitelist.Precedes .blacklist container.rules := by
  refine ⟨fun container serves => history.serves serves, fun container serves => ?_⟩
  have start : session.platform.Keeps AllowedFirst zoneId .firewall := fun container serves =>
    ⟨numbered container serves, ordered container serves⟩
  have kept : last.platform.Keeps AllowedFirst zoneId .firewall := by
    refine history.keeps AllowedFirst.invariant ?_ start
    intro store desired result outcome admitted told container number rules issued _ allowed
    exact allowed.revised
  exact (kept container serves).ordered

/-- An entry that wants a rule about every request. -/
def plainEntry (category : Category) (domain : String) : DesiredRule :=
  ⟨category, domain, some ⟨.block, "", true, none, none⟩⟩

/-- A firewall container in which a rule that allows addresses stands before one that blocks
them. -/
def ruledContainer : Container :=
  { Store.provisioned "zone" "firewall" .firewall "zone" with
    rules := [
      Store.ruleOf s!"rule-{1}" ⟨"white_ip_a.io", .skip, "", true, none, none, none⟩,
      Store.ruleOf s!"rule-{2}" ⟨"black_ip_a.io", .block, "", true, none, none, none⟩] }

def ruledSession : Session Store where
  platform := { Store.empty with containers := [ruledContainer], issued := 2 }
  logbook := .empty "journal"

/-- Another rule that allows addresses is added to the container. -/
def allowingSession : Session Store :=
  (onStore default default ((plainEntry .whitelist "b.io").reconcile "zone") ruledSession).2

theorem allowed_before_blocked_sample :
    ((∀ container, ruledSession.platform.serving? "zone" .firewall = some container →
        Numbered ruledSession.platform.issued container.rules) ∧
      (∀ container, ruledSession.platform.serving? "zone" .firewall = some container →
        Category.whitelist.Precedes .blacklist container.rules) ∧
      Session.Reconciles (fun _ _ _ _ => True) ruledSession allowingSession) ∧
    (∀ container, ruledSession.platform.serving? "zone" .firewall = some container →
        ∃ container', allowingSession.platform.serving? "zone" .firewall = some container' ∧
          container'.summary = container.summary) ∧
      ∀ container, allowingSession.platform.serving? "zone" .firewall = some container →
        Category.whitelist.Precedes .blacklist container.rules := by
  have serves : ruledSession.platform.serving? "zone" .firewall = some ruledContainer := rfl
  have numbered : ∀ container, ruledSession.platform.serving? "zone" .firewall = some container →
      Numbered ruledSession.platform.issued container.rules := by
    intro container served
    obtain rfl := Option.some.inj (serves.symm.trans served)
    refine ⟨by decide, fun n later => ?_⟩
    have issued : 2 < n := later
    refine List.forall_mem_cons.mpr ⟨fun same => ?_, List.forall_mem_singleton.mpr fun same => ?_⟩
    · have number := Store.ruleId_injective same
      omega
    · have number := Store.ruleId_injective same
      omega
  have ordered : ∀ container, ruledSession.platform.serving? "zone" .firewall = some container →
      Category.whitelist.Precedes .blacklist container.rules := by
    intro container served
    obtain rfl := Option.some.inj (serves.symm.trans served)
    unfold Category.Precedes
    decide
  have history : Session.Reconciles (fun _ _ _ _ => True) ruledSession allowingSession :=
    .reconciled default default "zone" (plainEntry .whitelist "b.io") trivial (.done _)
  exact ⟨⟨numbered, ordered, history⟩, allowed_before_blocked numbered ordered history⟩

/-- Rules in which those about addresses are ordered, and stand before those about countries. -/
structure CountriesLast (issued : Nat) (rules : List RemoteRule) : Prop where
  allowedFirst : AllowedFirst issued rules
  afterAllowed : Category.whitelist.Precedes .country rules
  afterBlocked : Category.blacklist.Precedes .country rules

namespace CountriesLast

variable {desired : DesiredRule} {container : Container} {outcome : Outcome}
  {rules : List RemoteRule} {issued number : Nat}

theorem invariant : RuleInvariant CountriesLast where
  nil issued := ⟨AllowedFirst.invariant.nil issued, .nil _ _, .nil _ _⟩
  mono _ _ _ later last :=
    ⟨AllowedFirst.invariant.mono _ _ _ later last.allowedFirst, last.afterAllowed,
      last.afterBlocked⟩

/-- A new rule about addresses goes in front of all countries if it finds its anchor, and a new
country rule goes behind all that block addresses. -/
theorem revised (last : CountriesLast number container.rules)
    (revision : desired.Revision container number outcome rules issued)
    (anchored : desired.category = .whitelist ∨ desired.category = .blacklist →
      ∀ ruleId, outcome = .created ruleId none →
        ∀ rule ∈ container.rules, Category.country.ownsTag rule.tag = false) :
    CountriesLast issued rules := by
  obtain ⟨allowed, afterAllowed, afterBlocked⟩ := last
  have appended : desired.category = .whitelist ∨ desired.category = .blacklist →
      ∀ ruleId position?, outcome = .created ruleId position? → position? = none →
        ∀ rule ∈ container.rules, Category.country.ownsTag rule.tag = false := by
    intro about ruleId position? created none
    exact anchored about ruleId (none ▸ created)
  refine ⟨allowed.revised revision, revision.precedes allowed.numbered afterAllowed ?_,
    revision.precedes allowed.numbered afterBlocked ?_⟩
  · intro ruleId position? front back created shape place
    have ordered := allowed.ordered
    rw [shape] at afterBlocked ordered appended
    constructor
    -- A rule that allows addresses goes before one that blocks them, hence before all countries.
    · intro category
      rw [← category] at place
      exact Placed.front_of_precedes place afterBlocked nofun
        (appended (.inl category.symm) ruleId position? created)
    -- A country goes behind one that blocks addresses, hence behind all that allow them.
    · intro category
      rw [← category] at place
      exact Placed.back_of_precedes place ordered
  · intro ruleId position? front back created shape place
    rw [shape] at afterAllowed appended
    constructor
    -- A rule that blocks addresses goes behind one that allows them, hence before all countries.
    · intro category
      rw [← category] at place
      exact Placed.front_of_precedes place afterAllowed nofun
        (appended (.inr category.symm) ruleId position? created)
    · intro category
      rw [← category] at place
      exact Placed.back_of_afterLast place

end CountriesLast

/-- A run that succeeds, and that creates no rule about addresses for want of an anchor while a
country rule stands in the firewall container of the zone. -/
def DesiredRule.FindsAnchor (store : Store) (zoneId : String) (desired : DesiredRule)
    (result : Except Error Outcome) : Prop :=
  ∃ outcome, result = .ok outcome ∧
    (desired.category = .whitelist ∨ desired.category = .blacklist →
      ∀ ruleId, outcome = .created ruleId none →
        ∀ container, store.serving? zoneId .firewall = some container →
          ∀ rule ∈ container.rules, Category.country.ownsTag rule.tag = false)

/-- In a firewall container that starts empty, the country rules stand behind all rules about
addresses, as long as these find their anchors. -/
theorem countries_last {zoneId : String} {session last : Session Store}
    (empty : ∀ container, session.platform.serving? zoneId .firewall = some container →
      container.rules = [])
    (history : Session.Reconciles DesiredRule.FindsAnchor session last) :
    ∀ container, last.platform.serving? zoneId .firewall = some container →
      Category.whitelist.Precedes .country container.rules ∧
        Category.blacklist.Precedes .country container.rules := by
  intro container serves
  have start : session.platform.Keeps CountriesLast zoneId .firewall := by
    intro container serves
    rw [empty container serves]
    exact CountriesLast.invariant.nil _
  have kept : last.platform.Keeps CountriesLast zoneId .firewall := by
    refine history.keeps CountriesLast.invariant ?_ start
    intro store desired result outcome admitted told container number rules issued here last revision
    obtain ⟨outcome', succeeded, anchored⟩ := admitted
    obtain rfl := told outcome' succeeded
    refine last.revised revision fun category ruleId created => ?_
    rcases here with served | none
    · exact anchored category ruleId created container served
    · rw [none]
      exact fun rule member => nomatch member
  exact ⟨(kept container serves).afterAllowed, (kept container serves).afterBlocked⟩

/-- A platform with one firewall container, which is empty. -/
def unruledSession : Session Store where
  platform := Store.empty.addContainer "zone" "firewall" .firewall "zone"
  logbook := .empty "journal"

/-- A rule for a category is added to that container. -/
def firstSession (category : Category) : Session Store :=
  (onStore default default ((plainEntry category "a.io").reconcile "zone") unruledSession).2

/-- And then one for another category. -/
def secondSession (first second : Category) : Session Store :=
  (onStore default default ((plainEntry second "a.io").reconcile "zone") (firstSession first)).2

theorem countries_last_sample :
    ((∀ container, unruledSession.platform.serving? "zone" .firewall = some container →
        container.rules = []) ∧
      Session.Reconciles DesiredRule.FindsAnchor unruledSession
        (secondSession .blacklist .country)) ∧
    ∀ container, (secondSession .blacklist .country).platform.serving? "zone" .firewall =
        some container →
      Category.whitelist.Precedes .country container.rules ∧
        Category.blacklist.Precedes .country container.rules := by
  have empty : ∀ container, unruledSession.platform.serving? "zone" .firewall = some container →
      container.rules = [] := by
    intro container served
    obtain rfl := List.mem_singleton.mp (Store.serving?_eq_some served).1
    rfl
  have history : Session.Reconciles DesiredRule.FindsAnchor unruledSession
      (secondSession .blacklist .country) := by
    refine .reconciled default default "zone" (plainEntry .blacklist "a.io") ?_ <|
      .reconciled default default "zone" (plainEntry .country "a.io") ?_ (.done _)
    · refine ⟨_, rfl, fun _ ruleId _ container served => ?_⟩
      rw [empty container served]
      exact fun rule member => nomatch member
    · refine ⟨_, rfl, fun about => ?_⟩
      exact absurd about (by decide)
  exact ⟨⟨empty, history⟩, countries_last empty history⟩

/-- Runs that succeed are not enough: a rule that blocks addresses goes behind the countries when
there is none that allows addresses. -/
theorem countries_not_last :
    ¬ ∀ (zoneId : String) (session last : Session Store),
      (∃ container, session.platform.serving? zoneId .firewall = some container ∧
        container.rules = []) →
      Session.Reconciles (fun _ _ desired result =>
        desired.category ∈ [Category.whitelist, .blacklist, .country] ∧ result.isOk = true)
        session last →
      ∀ container, last.platform.serving? zoneId .firewall = some container →
        Category.whitelist.Precedes .country container.rules ∧
          Category.blacklist.Precedes .country container.rules := by
  intro always
  have history : Session.Reconciles (fun _ _ desired result =>
      desired.category ∈ [Category.whitelist, .blacklist, .country] ∧ result.isOk = true)
      unruledSession (secondSession .country .blacklist) := by
    exact .reconciled default default "zone" (plainEntry .country "a.io") ⟨by decide, rfl⟩ <|
      .reconciled default default "zone" (plainEntry .blacklist "a.io") ⟨by decide, rfl⟩ (.done _)
  obtain ⟨country, blocking, laid, countryTag, blockingTag⟩ :
      ∃ country blocking, (secondSession .country .blacklist).platform.serving? "zone" .firewall =
        some { Store.provisioned "zone" "firewall" .firewall "zone" with
          rules := [country, blocking] } ∧
        country.tag = Category.country.tag "a.io" ∧
        blocking.tag = Category.blacklist.tag "a.io" :=
    ⟨_, _, rfl, rfl, rfl⟩
  have ordered := (always "zone" unruledSession _ ⟨_, rfl, rfl⟩ history _ laid).2
  have country_owned := Category.ownsTag_self .country "a.io"
  have blocking_owned := Category.ownsTag_self .blacklist "a.io"
  rw [← countryTag] at country_owned
  rw [← blockingTag] at blocking_owned
  have laid_out : Category.blacklist.Precedes .country ([] ++ country :: [blocking]) := ordered
  have absent := laid_out.of_second country_owned blocking (List.mem_singleton_self _)
  exact nomatch blocking_owned.symm.trans absent

end EdgePolicy
