import EdgePolicy.Proofs.View.Bots

/-
Valid requests can be built.

A request for addresses, countries or bots wants one condition or no rule at all
(`Request.wants?`).  The checks of a request are others than those of its rule, yet the condition
of a valid request has a clause and reads back from it as it stands (`Condition.IsWritable`):
entries of an address list need no quotes, and only operators that compare bot categories pass.  So
the rule is built for every host with a name, and its expression says just this condition about the
host (`Request.builds_of_valid`).
-/

set_option autoImplicit false
set_option relaxedAutoImplicit false

namespace EdgePolicy

/-- A condition that has a clause and reads back from it as it stands. -/
structure Condition.IsWritable (condition : Condition) : Prop where
  written : ∃ text, Expression.clause condition = .ok text
  tame : Expression.Tame condition
  canonical : condition.readBack = condition

namespace Request

/-- What a request for addresses, countries or bots wants of every host: one condition, or no
rule. -/
def wants? : Request → Option (Option Condition)
  | blacklist request | whitelist request => some (addressCondition? request.addresses)
  | country request => some (countryCondition?
      ⟨request.mode, request.countries.map fun country => Text.upper (Text.trim country.code)⟩)
  | knownBot request => some ((request.rule.map KnownBotRule.source).map (·.condition))
  | verifiedBot request => some ((request.rule.bind VerifiedBotRule.source?).map (·.condition))
  | _ => none

end Request

section Writable

variable {condition : Condition} {host : String}

private theorem isBareToken_of_isEntry {entry : String} (valid : Address.isEntry entry = true) :
    Expression.isBareToken entry = true := by
  obtain ⟨nonempty, chars⟩ := Address.isEntryChar_of_isEntry valid
  have bare : ∀ c ∈ entry.toList,
      (!(Text.isBlank c || c == '\x7b' || c == '\x7d' || c == '"')) = true := by
    intro c member
    have entryChar := chars c member
    have absent : ∀ d : Char, ¬ (43 ≤ d.toNat ∧ d.toNat ≤ 102) → (c == d) = false :=
      fun d outside => beq_false_of_ne fun same => outside (same ▸ entryChar.bounds)
    rw [entryChar.not_blank, absent '\x7b' (by decide), absent '\x7d' (by decide),
      absent '"' (by decide)]
    rfl
  have filled : entry.isEmpty = false := by
    simpa [← String.toList_eq_nil_iff] using nonempty
  unfold Expression.isBareToken
  rw [filled, List.all_eq_true.mpr bare]
  rfl

private theorem isWritable_of_addresses {addresses : List String}
    (valid : ∀ entry ∈ addresses, Address.isEntry entry = true)
    (listed : addressCondition? addresses = some condition) : condition.IsWritable := by
  have tame := tame_of_valid valid listed
  unfold addressCondition? at listed
  split at listed
  · nomatch listed
  · next filled =>
    obtain rfl := Option.some.inj listed
    have items : Expression.setItems (.of .sourceAddress .within (.many addresses)) =
        .ok addresses := if_neg filled
    have bare : addresses.find? (fun item => !Expression.isBareToken item) = none :=
      List.find?_eq_none.mpr fun entry member => by
        simp [isBareToken_of_isEntry (valid entry member)]
    refine ⟨⟨Expression.membership false Expression.addressPath
      (Expression.setOf (addresses.map String.toList)), ?_⟩, tame, rfl⟩
    unfold Expression.clause Expression.addressClause
    simp only [Condition.of, Operand.canonical] at items ⊢
    rw [items]
    simp only [bind, Except.bind, bare]
    rfl

private theorem isWritable_of_country {view : CountryView}
    (listed : countryCondition? view = some condition) : condition.IsWritable := by
  have tame := tame_of_country listed
  unfold countryCondition? at listed
  split at listed
  · nomatch listed
  · next filled =>
    obtain rfl := Option.some.inj listed
    obtain ⟨mode, codes⟩ := view
    have quoted (negated : Bool) (operator : Operator)
        (member : operator = if negated then .notWithin else .within) :
        Expression.clause (.of .sourceCountry operator (.many codes)) = .ok
          (Expression.membership negated Expression.countryPath (Expression.quotedSet codes)) := by
      have items : Expression.setItems (.of .sourceCountry operator (.many codes)) = .ok codes :=
        if_neg filled
      subst member
      cases negated <;>
      · unfold Expression.clause Expression.quotedClause
        simp only [Condition.of, Operand.canonical] at items ⊢
        rw [items]
        rfl
    cases mode with
    | block => exact ⟨⟨_, quoted false .within rfl⟩, tame, rfl⟩
    | allow => exact ⟨⟨_, quoted true .notWithin rfl⟩, tame, rfl⟩

private theorem KnownBotRule.isWritable_source (rule : KnownBotRule) :
    rule.source.condition.IsWritable := by
  obtain ⟨flag, action⟩ := rule
  cases flag with
  | true => exact ⟨⟨_, rfl⟩, nofun, rfl⟩
  | false => exact ⟨⟨_, rfl⟩, nofun, rfl⟩

private theorem VerifiedBotRule.isWritable_source {rule : VerifiedBotRule} {source : BotSource}
    (compares : rule.operator.comparesCategories = true) (made : rule.source? = some source) :
    source.condition.IsWritable := by
  have isFor := isFor_source compares made
  refine ⟨?_, BotSource.tame isFor, isFor.canonical⟩
  obtain ⟨first, listed, rfl⟩ := Option.map_eq_some_iff.mp made
  obtain ⟨operator, categories, action⟩ := rule
  obtain ⟨others, rfl⟩ := List.head?_eq_some_iff.mp listed
  cases operator with
  | eq | ne | within | notWithin => exact ⟨_, rfl⟩
  | _ => nomatch compares

/-- The rule of one writable condition compiles for a host that is not blank, and its expression
says just this condition about the host. -/
private theorem compile_of_isWritable (writable : condition.IsWritable)
    (named : Text.isBlankText host = false) :
    ∃ expression, Expression.compile (Group.single condition) host = .ok expression ∧
      Expression.decompile expression = .ok ⟨host, Group.single condition, []⟩ := by
  obtain ⟨text, written⟩ := writable.written
  have compiled : Expression.compile (Group.single condition) host = .ok (String.ofList
      (Expression.joinWith " or ".toList
        [Expression.groupText [text, Expression.hostClause host]])) := by
    have grouped : Expression.compileGroup host [condition] =
        .ok (Expression.groupText [text, Expression.hostClause host]) := by
      unfold Expression.compileGroup
      rw [List.mapM_cons, written]
      rfl
    unfold Expression.compile Expression.compileChars Group.single
    rw [named, List.mapM_cons, grouped]
    rfl
  refine ⟨_, compiled, ?_⟩
  have read := Expression.decompile_of_compile compiled fun group member c listed => by
    obtain rfl := List.mem_singleton.mp member
    obtain rfl := List.mem_singleton.mp listed
    exact writable.tame
  have whole : Group.canonical ((Group.single condition).map Expression.readBackGroup) =
      Group.single condition.readBack := rfl
  rw [read, whole, writable.canonical]

end Writable

section Rules

variable {host : String} {want : Option Condition}

/-- The expression of a desired rule says one condition about a host, or the rule must not exist. -/
def DesiredRule.BuiltFrom (host : String) (want : Option Condition) (desired : DesiredRule) :
    Prop :=
  desired.body.isSome = want.isSome ∧ ∀ body, desired.body = some body →
    ∃ condition, want = some condition ∧
      Expression.decompile body.expression = .ok ⟨host, Group.single condition, []⟩

def Category.IsListed : Category → Prop
  | cache | ddosOverride => False
  | _ => True

private theorem desired_of_isWritable (rule : PolicyRule) (listed : rule.category.IsListed)
    (groups : rule.groups = want.elim [] Group.single)
    (writable : ∀ condition, want = some condition → condition.IsWritable)
    (named : Text.isBlankText rule.domain = false) :
    ∃ desired, rule.desired = .ok desired ∧ desired.BuiltFrom rule.domain want := by
  have expression : rule.expression? = if rule.groups.isEmpty then .ok none
      else (Expression.compile rule.groups rule.domain).map some := by
    unfold PolicyRule.expression?
    cases category : rule.category with
    | cache | ddosOverride => rw [category] at listed; exact listed.elim
    | _ => rfl
  unfold PolicyRule.desired
  rw [expression, groups]
  cases want with
  | none => exact ⟨_, rfl, rfl, nofun⟩
  | some condition =>
    obtain ⟨text, compiled, read⟩ := compile_of_isWritable (writable condition rfl) named
    have compiled' : Expression.compile ((some condition).elim [] Group.single) rule.domain =
        .ok text := compiled
    rw [compiled']
    refine ⟨_, rfl, rfl, fun body built => ⟨condition, rfl, ?_⟩⟩
    obtain rfl := Option.some.inj built
    exact read

theorem DesiredRule.BuiltFrom.withLogging {desired : DesiredRule}
    (built : desired.BuiltFrom host want) (logging : Logging) :
    (desired.withLogging logging).BuiltFrom host want := by
  obtain ⟨present, reads⟩ := built
  refine ⟨(Option.isSome_map ..).trans present, fun body built => ?_⟩
  obtain ⟨bare, held, rfl⟩ := Option.map_eq_some_iff.mp built
  exact reads bare held

end Rules

section Builders

variable {host : String} {addresses : List String}

private theorem DesiredRule.blacklist_builtFrom
    (valid : ∀ entry ∈ addresses, Address.isEntry entry = true)
    (named : Text.isBlankText host = false) : ∃ desired,
      DesiredRule.blacklist host addresses = .ok desired ∧
        desired.BuiltFrom host (addressCondition? addresses) :=
  desired_of_isWritable ⟨.blacklist, host, .block, Group.ofAddresses addresses, none⟩ trivial
    (ofAddresses_of_valid valid) (fun _ => isWritable_of_addresses valid) named

private theorem DesiredRule.whitelist_builtFrom
    (valid : ∀ entry ∈ addresses, Address.isEntry entry = true)
    (named : Text.isBlankText host = false) : ∃ desired,
      DesiredRule.whitelist host addresses = .ok desired ∧
        desired.BuiltFrom host (addressCondition? addresses) := by
  obtain ⟨rule, made, built⟩ := desired_of_isWritable
    ⟨.whitelist, host, .skip, Group.ofAddresses addresses, some skipParameters⟩ trivial
    (ofAddresses_of_valid valid) (fun _ => isWritable_of_addresses valid) named
  refine ⟨rule.withLogging ⟨true⟩, ?_, built.withLogging _⟩
  unfold DesiredRule.whitelist
  rw [made]
  rfl

private theorem DesiredRule.country_builtFrom (countries : List Country) (mode : AccessMode)
    (named : Text.isBlankText host = false) : ∃ desired,
      DesiredRule.country host countries mode = .ok desired ∧
        desired.BuiltFrom host (countryCondition? ⟨mode, countries.map fun country =>
          Text.upper (Text.trim country.code)⟩) :=
  desired_of_isWritable ⟨.country, host, .block, Group.ofCountries countries mode, none⟩ trivial
    (ofCountries_eq countries mode) (fun _ => isWritable_of_country) named

private theorem DesiredRule.knownBot_builtFrom (rule? : Option KnownBotRule)
    (named : Text.isBlankText host = false) : ∃ desired,
      DesiredRule.knownBot host rule? = .ok desired ∧
        desired.BuiltFrom host ((rule?.map KnownBotRule.source).map (·.condition)) := by
  cases rule? with
  | none => exact ⟨_, rfl, rfl, nofun⟩
  | some rule =>
    refine desired_of_isWritable ⟨.knownBot, host, rule.action,
      Group.single rule.source.condition, rule.action.defaultParameters⟩ trivial rfl ?_ named
    rintro _ ⟨⟩
    exact rule.isWritable_source

private theorem DesiredRule.verifiedBot_builtFrom {rule? : Option VerifiedBotRule}
    (compares : ∀ rule, rule? = some rule → rule.operator.comparesCategories = true)
    (named : Text.isBlankText host = false) : ∃ desired,
      DesiredRule.verifiedBot host rule? = .ok desired ∧
        desired.BuiltFrom host ((rule?.bind VerifiedBotRule.source?).map (·.condition)) := by
  cases rule? with
  | none => exact ⟨_, rfl, rfl, nofun⟩
  | some rule =>
    have compares' := compares rule rfl
    obtain ⟨operator, categories, action⟩ := rule
    cases categories with
    | nil => exact ⟨_, rfl, rfl, nofun⟩
    | cons first others =>
      refine desired_of_isWritable ⟨.verifiedBot, host, action,
        Group.single (.of .verifiedBotCategory operator
          (DesiredRule.categoryOperand operator first (first :: others))),
        action.defaultParameters⟩ trivial rfl ?_ named
      rintro _ ⟨⟩
      have made : VerifiedBotRule.source? ⟨operator, first :: others, action⟩ = some ⟨action,
        .of .verifiedBotCategory operator
          (DesiredRule.categoryOperand operator first (first :: others))⟩ := rfl
      exact VerifiedBotRule.isWritable_source compares' made

private theorem only_of_ok {rule : Except ConditionFault DesiredRule} {desired : DesiredRule}
    (built : rule = .ok desired) : Request.only rule = .ok [desired] := by
  rw [built]
  rfl

end Builders

/-- Validation is enough to build: for every host of a valid request for addresses, countries or
bots there is one desired rule, if the names of the hosts are not blank, and if the rule has a body,
its expression says one condition about the host, the one that the request wants. -/
theorem Request.builds_of_valid {request : Request} {want : Option Condition}
    (asked : request.wants? = some want) (valid : request.validate = .ok ())
    (named : ∀ target ∈ request.targets, Text.isBlankText target.name = false) :
    ∀ target ∈ request.targets, ∃ desired, request.desired target.name = .ok [desired] ∧
      desired.body.isSome = want.isSome ∧ ∀ body, desired.body = some body →
        ∃ condition, want = some condition ∧ Expression.decompile body.expression =
          .ok ⟨target.name, Group.single condition, []⟩ := by
  intro target member
  have single {rule : Except ConditionFault DesiredRule}
      (built : ∃ desired, rule = .ok desired ∧ desired.BuiltFrom target.name want) :
      ∃ desired, only rule = .ok [desired] ∧ desired.BuiltFrom target.name want :=
    built.imp fun _ made => ⟨only_of_ok made.1, made.2⟩
  have host := named target member
  cases request with
  | blacklist request =>
    obtain rfl := Option.some.inj asked
    exact single (DesiredRule.blacklist_builtFrom (valid_of_addresses valid).2 host)
  | whitelist request =>
    obtain rfl := Option.some.inj asked
    exact single (DesiredRule.whitelist_builtFrom (valid_of_addresses valid).2 host)
  | country request =>
    obtain rfl := Option.some.inj asked
    exact single (DesiredRule.country_builtFrom request.countries request.mode host)
  | knownBot request =>
    obtain rfl := Option.some.inj asked
    exact single (DesiredRule.knownBot_builtFrom request.rule host)
  | verifiedBot request =>
    obtain rfl := Option.some.inj asked
    exact single (DesiredRule.verifiedBot_builtFrom
      (fun _ sent => compares_of_valid valid sent) host)
  | custom | cache | ddos | teardown => nomatch asked

/-- A request for a blocked address, an address block and an IPv6 address. -/
def sampleAddresses : Request :=
  .blacklist ⟨[⟨"example.com", "a.example.com"⟩], ["192.0.2.1", "10.0.0.0/8", "2001:db8::1"]⟩

theorem Request.builds_of_valid_sample :
    sampleAddresses.validate = .ok () ∧ ∃ desired,
      sampleAddresses.desired "a.example.com" = .ok [desired] ∧ desired.body.isSome = true ∧
        ∀ body, desired.body = some body → Expression.decompile body.expression =
          .ok ⟨"a.example.com", Group.single (.of .sourceAddress .within
            (.many ["192.0.2.1", "10.0.0.0/8", "2001:db8::1"])), []⟩ := by
  have valid : sampleAddresses.validate = .ok () := by decide +kernel
  have host : ∀ target ∈ sampleAddresses.targets, Text.isBlankText target.name = false := by
    refine List.forall_mem_singleton.mpr ?_
    decide +kernel
  obtain ⟨desired, made, present, reads⟩ := @Request.builds_of_valid sampleAddresses _ rfl
    valid host ⟨"example.com", "a.example.com"⟩ List.mem_cons_self
  refine ⟨valid, desired, made, present, fun body built => ?_⟩
  obtain ⟨condition, wanted, read⟩ := reads body built
  obtain rfl := Option.some.inj wanted
  exact read

end EdgePolicy
