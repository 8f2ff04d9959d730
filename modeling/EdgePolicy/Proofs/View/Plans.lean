import EdgePolicy.Proofs.Payload.Addresses
import EdgePolicy.Proofs.Policy.Planned
import EdgePolicy.Proofs.Reconcile.Entry
import EdgePolicy.Proofs.View.Said

/-
The rules that a request desires for one of its hosts.

`Plans` ties them to what the request says: the rule of a category it speaks about holds exactly the
said condition, or must not exist, and no rule of another shown category is among them.  Addresses
are listed as they were given, because a valid entry has nothing to trim.
-/

set_option autoImplicit false
set_option relaxedAutoImplicit false

namespace EdgePolicy

/-- The body of a rule for a host holds one condition, or there is no body. -/
def DesiredRule.Holds (desired : DesiredRule) (host : String) : Option Condition → Prop
  | none => desired.body = none
  | some condition => ∃ body, desired.body = some body ∧ host ≠ "" ∧
      Expression.compile (Group.single condition) host = .ok body.expression ∧
      Expression.Tame condition

/-- The rules that a request desires for a host, by what it says. -/
structure Plans (request : Request) (host : String) (rules : List DesiredRule) : Prop where
  domain : ∀ desired ∈ rules, desired.domain = host
  silent : ∀ category : Category, category.InView → request.condition? category = none →
    ∀ desired ∈ rules, desired.category ≠ category
  maps : (∃ category : Category, category.InView ∧ request.condition? category ≠ none) →
    ∀ desired ∈ rules, desired.HasMaps
  agree : (∃ category : Category, category.InView ∧ request.condition? category ≠ none) →
    ∀ first ∈ rules, ∀ second ∈ rules, first.tag = second.tag → first.body = second.body
  holds : ∀ category : Category, category.InView → ∀ want, request.condition? category = some want →
    ∃ desired ∈ rules, desired.category = category ∧ desired.Holds host want

section Desired

variable {rule : PolicyRule} {desired : DesiredRule} {host : String}

private theorem expression?_of_inView (inView : rule.category.InView) : rule.expression? =
    if rule.groups.isEmpty then .ok none
    else (Expression.compile rule.groups rule.domain).map some := by
  unfold PolicyRule.expression?
  cases category : rule.category <;> rw [category] at inView <;> first | rfl | nomatch inView

private theorem holds_of_desired (made : rule.desired = .ok desired) {want : Option Condition}
    (inView : rule.category.InView) (groups : rule.groups = want.elim [] Group.single)
    (named : rule.domain ≠ "")
    (tame : ∀ condition, want = some condition → Expression.Tame condition) :
    desired.Holds rule.domain want := by
  obtain ⟨expression?, written, rfl⟩ := desired_eq_ok made
  rw [expression?_of_inView inView, groups] at written
  cases want with
  | none =>
    obtain rfl := Except.ok.inj written
    rfl
  | some condition =>
    have compiles : (Expression.compile (Group.single condition) rule.domain).map some =
        .ok expression? := written
    obtain ⟨expression, compiled, rfl⟩ := map_eq_ok.mp compiles
    exact ⟨_, rfl, named, compiled, tame condition rfl⟩

private theorem hasMaps_of_desired (made : rule.desired = .ok desired)
    (maps : ∀ value, rule.parameters = some value → value.hasDistinctNames = true) :
    desired.HasMaps := by
  obtain ⟨expression?, -, rfl⟩ := desired_eq_ok made
  intro body wanted value given
  cases expression? with
  | none => nomatch wanted
  | some expression =>
    obtain rfl := Option.some.inj wanted
    exact maps value given

private theorem holds_withLogging {want : Option Condition} (holds : desired.Holds host want)
    (logging : Logging) : (desired.withLogging logging).Holds host want := by
  cases want with
  | none =>
    have absent : desired.body = none := holds
    show desired.body.map _ = none
    rw [absent]
    rfl
  | some condition =>
    obtain ⟨body, wanted, named, compiled, tame⟩ := holds
    refine ⟨{ body with logging := some logging }, ?_, named, compiled, tame⟩
    show desired.body.map _ = _
    rw [wanted]
    rfl

private theorem hasMaps_withLogging (maps : desired.HasMaps) (logging : Logging) :
    (desired.withLogging logging).HasMaps := by
  intro body wanted value given
  obtain ⟨bare, held, rfl⟩ := Option.map_eq_some_iff.mp wanted
  exact maps bare held value given

end Desired

section Valid

private theorem named_of_validateAll {subdomains : List Subdomain}
    (valid : Subdomain.validateAll subdomains = .ok ()) : ∀ sub ∈ subdomains, sub.name ≠ "" := by
  intro sub member empty
  unfold Subdomain.validateAll at valid
  split at valid
  · nomatch valid
  · split at valid
    · nomatch valid
    · next found =>
      have kept := List.find?_eq_none.mp found sub member
      simp [empty] at kept

theorem valid_of_addresses {request : AddressRequest} (valid : request.validate = .ok ()) :
    (∀ sub ∈ request.subdomains, sub.name ≠ "") ∧
      ∀ entry ∈ request.addresses, Address.isEntry entry = true := by
  obtain ⟨⟨⟩, hosts, valid⟩ := bind_eq_ok.mp valid
  refine ⟨named_of_validateAll hosts, fun entry member => ?_⟩
  split at valid
  · cases valid
  · next found =>
    have kept := List.find?_eq_none.mp found entry member
    simpa using kept

private theorem valid_of_countries {request : CountryRequest} (valid : request.validate = .ok ()) :
    ∀ sub ∈ request.subdomains, sub.name ≠ "" := by
  obtain ⟨⟨⟩, hosts, -⟩ := bind_eq_ok.mp valid
  exact named_of_validateAll hosts

theorem ofAddresses_of_valid {addresses : List String}
    (valid : ∀ entry ∈ addresses, Address.isEntry entry = true) :
    Group.ofAddresses addresses = (addressCondition? addresses).elim [] Group.single := by
  have trimmed : addresses.map Text.trim = addresses :=
    (List.map_congr_left fun entry member => Address.trim_of_isEntry (valid entry member)).trans
      (List.map_id _)
  have filled : addresses.filter (!·.isEmpty) = addresses := by
    refine List.filter_eq_self.mpr fun entry member => ?_
    have letters := (Address.isEntryChar_of_isEntry (valid entry member)).1
    simpa [← String.toList_eq_nil_iff] using letters
  unfold Group.ofAddresses addressCondition?
  rw [trimmed, filled]
  cases addresses with
  | nil => rfl
  | cons first rest => rfl

theorem tame_of_valid {addresses : List String}
    (valid : ∀ entry ∈ addresses, Address.isEntry entry = true) {condition : Condition}
    (listed : addressCondition? addresses = some condition) : Expression.Tame condition := by
  unfold addressCondition? at listed
  split at listed
  · nomatch listed
  · obtain rfl := Option.some.inj listed
    exact fun _ entry member => Address.isTame_of_isEntry (valid entry member)

theorem ofCountries_eq (countries : List Country) (mode : AccessMode) :
    Group.ofCountries countries mode = (countryCondition? ⟨mode, countries.map fun country =>
      Text.upper (Text.trim country.code)⟩).elim [] Group.single := by
  unfold Group.ofCountries countryCondition?
  cases countries with
  | nil => rfl
  | cons first rest => rfl

theorem tame_of_country {view : CountryView} {condition : Condition}
    (listed : countryCondition? view = some condition) : Expression.Tame condition := by
  unfold countryCondition? at listed
  split at listed
  · nomatch listed
  · obtain rfl := Option.some.inj listed
    exact nofun

end Valid

section Plans

variable {request : Request} {host : String} {rules : List DesiredRule}

private theorem mem_categories_of_condition? {category : Category} {want : Option Condition}
    (spoken : request.condition? category = some want) : category ∈ request.categories := by
  cases request with
  | blacklist request =>
    cases category with
    | blacklist => exact List.mem_singleton_self _
    | _ => cases spoken
  | whitelist request =>
    cases category with
    | whitelist => exact List.mem_singleton_self _
    | _ => cases spoken
  | country request =>
    cases category with
    | country => exact List.mem_singleton_self _
    | _ => cases spoken
  | teardown request =>
    cases category with
    | blacklist | whitelist | country => simp [Request.categories]
    | _ => cases spoken
  | _ => cases category <;> cases spoken

private theorem plans_single (category : Category) {want : Option Condition} {desired : DesiredRule}
    (inView : category.InView) (spoken : request.condition? category = some want)
    (alone : request.categories = [category]) (about : desired.category = category)
    (domain : desired.domain = host) (maps : desired.HasMaps) (holds : desired.Holds host want) :
    Plans request host [desired] := by
  refine ⟨List.forall_mem_singleton.mpr domain, ?_, fun _ => List.forall_mem_singleton.mpr maps,
    fun _ => by simp, ?_⟩
  · intro category' inView' silent
    refine List.forall_mem_singleton.mpr fun same => ?_
    rw [← same, about, spoken] at silent
    nomatch silent
  · intro category' inView' want' spoken'
    have listed := mem_categories_of_condition? spoken'
    rw [alone] at listed
    obtain rfl := List.mem_singleton.mp listed
    obtain rfl := Option.some.inj (spoken.symm.trans spoken')
    exact ⟨desired, List.mem_singleton_self _, about, holds⟩

private theorem plans_hidden (silent : ∀ category : Category, category.InView →
      request.condition? category = none)
    (hidden : ∀ desired ∈ rules, desired.domain = host ∧ ¬ desired.category.InView) :
    Plans request host rules := by
  refine ⟨fun desired member => (hidden desired member).1, ?_, ?_, ?_, ?_⟩
  · intro category inView _ desired member same
    exact (hidden desired member).2 (same ▸ inView)
  · rintro ⟨category, inView, speaks⟩
    exact absurd (silent category inView) speaks
  · rintro ⟨category, inView, speaks⟩
    exact absurd (silent category inView) speaks
  · intro category inView want spoken
    rw [silent category inView] at spoken
    nomatch spoken

private theorem plans_teardown (request : TeardownRequest) (host : String) :
    Plans (.teardown request) host (DesiredRule.teardown host) := by
  have absents : ∀ desired ∈ DesiredRule.teardown host,
      ∃ category, desired = DesiredRule.absent category host := by
    intro desired member
    obtain ⟨category, -, rfl⟩ := List.mem_map.mp member
    exact ⟨category, rfl⟩
  refine ⟨?_, ?_, ?_, ?_, ?_⟩
  · intro desired member
    obtain ⟨category, rfl⟩ := absents desired member
    rfl
  · intro category inView silent
    cases category with
    | blacklist | whitelist | country => nomatch silent
    | _ => exact inView.elim
  · intro _ desired member body wanted
    obtain ⟨category, rfl⟩ := absents desired member
    nomatch wanted
  · intro _ first member second member' _
    obtain ⟨category, rfl⟩ := absents first member
    obtain ⟨category', rfl⟩ := absents second member'
    rfl
  · intro category inView want spoken
    have nothing : want = none ∧ category ∈ [Category.blacklist, .whitelist, .country, .cache] := by
      cases category with
      | blacklist | whitelist | country => exact ⟨(Option.some.inj spoken).symm, by simp⟩
      | _ => exact inView.elim
    obtain ⟨rfl, listed⟩ := nothing
    exact ⟨.absent category host, List.mem_map_of_mem listed, rfl, rfl⟩

private theorem condition?_of_mem_categories {category : Category} (inView : category.InView)
    (member : category ∈ request.categories) : request.condition? category ≠ none := by
  cases request with
  | blacklist request | whitelist request | country request =>
    obtain rfl := List.mem_singleton.mp member
    rintro ⟨⟩
  | knownBot request | verifiedBot request | cache request | ddos request =>
    obtain rfl := List.mem_singleton.mp member
    exact inView.elim
  | custom request =>
    obtain ⟨key, -, rfl⟩ := List.mem_map.mp member
    exact inView.elim
  | teardown request =>
    simp only [Request.categories, List.mem_cons, List.not_mem_nil, or_false] at member
    rcases member with rfl | rfl | rfl | rfl
    · rintro ⟨⟩
    · rintro ⟨⟩
    · rintro ⟨⟩
    · exact inView.elim

private theorem plans_of_silent (blocked : request.blocked? = none)
    (allowed : request.allowed? = none) (countries : request.countries? = none)
    (made : request.desired host = .ok rules) :
    Plans request host rules := by
  have silent : ∀ category : Category, category.InView → request.condition? category = none := by
    intro category inView
    cases category with
    | blacklist => exact congrArg (Option.map addressCondition?) blocked
    | whitelist => exact congrArg (Option.map addressCondition?) allowed
    | country => exact congrArg (Option.map countryCondition?) countries
    | _ => exact inView.elim
  obtain ⟨domains, categories⟩ := Request.desired_categories made
  refine plans_hidden silent fun desired member => ⟨domains desired member, fun inView => ?_⟩
  have listed := categories.subset (List.mem_map_of_mem member)
  exact condition?_of_mem_categories inView listed (silent _ inView)

theorem plans_of_desired (valid : request.validate = .ok ()) {target : Subdomain}
    (member : target ∈ request.targets) (made : request.desired target.name = .ok rules) :
    Plans request target.name rules := by
  cases request with
  | blacklist request =>
    obtain ⟨named, entries⟩ := valid_of_addresses valid
    obtain ⟨desired, built, rfl⟩ := only_eq_ok made
    have holds := holds_of_desired built trivial (ofAddresses_of_valid entries)
      (named target member) fun condition => tame_of_valid entries
    have maps := hasMaps_of_desired built nofun
    obtain ⟨expression?, -, rfl⟩ := desired_eq_ok built
    exact plans_single .blacklist trivial rfl rfl rfl rfl maps holds
  | whitelist request =>
    obtain ⟨named, entries⟩ := valid_of_addresses valid
    obtain ⟨desired, built, rfl⟩ := only_eq_ok made
    obtain ⟨rule, ruled, rfl⟩ := map_eq_ok.mp built
    have holds := holds_of_desired ruled trivial (ofAddresses_of_valid entries)
      (named target member) fun condition => tame_of_valid entries
    have maps := hasMaps_of_desired ruled fun value given => by
      obtain rfl := Option.some.inj given
      decide
    obtain ⟨expression?, -, rfl⟩ := desired_eq_ok ruled
    exact plans_single .whitelist trivial rfl rfl rfl rfl (hasMaps_withLogging maps _)
      (holds_withLogging holds _)
  | country request =>
    have named := valid_of_countries valid
    obtain ⟨desired, built, rfl⟩ := only_eq_ok made
    have holds := holds_of_desired built trivial (ofCountries_eq request.countries request.mode)
      (named target member) fun condition => tame_of_country
    have maps := hasMaps_of_desired built nofun
    obtain ⟨expression?, -, rfl⟩ := desired_eq_ok built
    exact plans_single .country trivial rfl rfl rfl rfl maps holds
  | teardown request =>
    obtain rfl := Except.ok.inj made
    exact plans_teardown request target.name
  | knownBot request | verifiedBot request | custom request | cache request | ddos request =>
    exact plans_of_silent rfl rfl rfl made

end Plans

end EdgePolicy
