import EdgePolicy.Proofs.Expression.RoundTrip
import EdgePolicy.Proofs.Policy.Planned
import EdgePolicy.Proofs.Reconcile.Requests
import EdgePolicy.Proofs.Reconcile.Retry
import EdgePolicy.Proofs.View.Plans
import EdgePolicy.Proofs.View.Topic

/-
The bot rules of requests.

A bot rule has an action and one condition on the field of its category (`BotSource`).  Under the
tag of a host stands one rule that was made from such a source, or none, after every history of
requests, whether or not they succeed (`settles_botTopic`); after a request that succeeds the source
is the requested one (`servedBy_botTopic`).
-/

set_option autoImplicit false
set_option relaxedAutoImplicit false

namespace EdgePolicy

open Session (Leads onStore)

/-- What a bot rule is made from. -/
structure BotSource where
  action : Action
  condition : Condition

namespace Category

def IsBot : Category → Prop
  | knownBot | verifiedBot => True
  | _ => False

def botField : Category → Field
  | knownBot => .knownBot
  | _ => .verifiedBotCategory

variable {category : Category}

theorem phase_of_isBot (bot : category.IsBot) : category.phase = .firewall := by
  cases category with
  | knownBot | verifiedBot => rfl
  | _ => exact bot.elim

theorem labelled_of_isBot (bot : category.IsBot) : category ≠ .ddosOverride := by
  rintro rfl
  exact bot

end Category

namespace BotSource

/-- A source whose condition is on the field of a category, in the form in which it reads back. -/
structure IsFor (category : Category) (source : BotSource) : Prop where
  field : source.condition.field = category.botField
  canonical : source.condition.readBack = source.condition

/-- The body of a rule for a host with an expression. -/
def body (source : BotSource) (expression : String) : DesiredBody :=
  ⟨source.action, expression, true, source.action.defaultParameters, none⟩

theorem tame {category : Category} {source : BotSource} (isFor : source.IsFor category) :
    Expression.Tame source.condition := by
  intro field
  rw [isFor.field] at field
  cases category <;> cases field

end BotSource

/-- The rules under the tag of a bot category and host: one that was made from a source, or none. -/
def BotsFrom (category : Category) (host : String) : Option BotSource → List RemoteRule → Prop
  | none, rules => rules = []
  | some source, rules => source.IsFor category ∧ ∃ rule, rules = [rule] ∧
      rule.action = source.action ∧
      Expression.compile (Group.single source.condition) host = .ok rule.expression

/-- The desired rule of a host has the body that is made from a source, or there is no rule. -/
def DesiredRule.MakesBot (host : String) : Option BotSource → DesiredRule → Prop
  | none, desired => desired.body = none
  | some source, desired => ∃ expression,
      Expression.compile (Group.single source.condition) host = .ok expression ∧
        desired.body = some (source.body expression)

namespace KnownBotRule

def source (rule : KnownBotRule) : BotSource :=
  ⟨rule.action, .of .knownBot .eq (.flag rule.value)⟩

theorem isFor_source (rule : KnownBotRule) : rule.source.IsFor .knownBot := ⟨rfl, rfl⟩

end KnownBotRule

namespace VerifiedBotRule

def source? (rule : VerifiedBotRule) : Option BotSource :=
  rule.categories.head?.map fun first => ⟨rule.action, .of .verifiedBotCategory rule.operator
    (DesiredRule.categoryOperand rule.operator first rule.categories)⟩

theorem isFor_source {rule : VerifiedBotRule} (compares : rule.operator.comparesCategories = true)
    {source : BotSource} (made : rule.source? = some source) : source.IsFor .verifiedBot := by
  obtain ⟨first, -, rfl⟩ := Option.map_eq_some_iff.mp made
  obtain ⟨operator, categories, action⟩ := rule
  refine ⟨rfl, ?_⟩
  cases operator with
  | eq | ne | within | notWithin => rfl
  | _ => nomatch compares

end VerifiedBotRule

namespace Request

def botSource? (category : Category) (request : Request) : Option (Option BotSource) :=
  match category, request with
  | .knownBot, knownBot request => some (request.rule.map KnownBotRule.source)
  | .verifiedBot, verifiedBot request => some (request.rule.bind VerifiedBotRule.source?)
  | _, _ => none

end Request

def botTopic : Topic (Option BotSource) where
  Includes := Category.IsBot
  asks := Request.botSource?
  Bears := BotsFrom
  labelled _ := Category.labelled_of_isBot

section Desired

variable {category : Category} {host zoneId : String} {want : Option BotSource}
  {source : BotSource} {desired : DesiredRule} {store : Store}

private theorem DesiredRule.MakesBot.hasMaps (makes : desired.MakesBot host want) :
    desired.HasMaps := by
  intro body wanted value given
  cases want with
  | none => cases (show desired.body = none from makes).symm.trans wanted
  | some source =>
    obtain ⟨expression, -, bodied⟩ := makes
    obtain rfl := Option.some.inj (bodied.symm.trans wanted)
    have defaults : source.action.defaultParameters = some value := given
    unfold Action.defaultParameters at defaults
    split at defaults
    · obtain rfl := Option.some.inj defaults
      decide
    · cases defaults

theorem BotsFrom.of_settled (settled : desired.Settled zoneId store)
    (makes : desired.MakesBot host want)
    (isFor : ∀ source, want = some source → source.IsFor category) :
    BotsFrom category host want (desired.held zoneId store) := by
  obtain ⟨rule?, held, accepted⟩ := settled
  rw [held]
  cases want with
  | none =>
    have absent : desired.body = none := makes
    cases rule? with
    | none => rfl
    | some rule =>
      obtain ⟨body, wanted, -⟩ := accepted
      cases absent.symm.trans wanted
  | some source =>
    obtain ⟨expression, compiled, bodied⟩ := makes
    cases rule? with
    | none => cases bodied.symm.trans accepted
    | some rule =>
      obtain ⟨body, wanted, matched⟩ := accepted
      obtain rfl := Option.some.inj (bodied.symm.trans wanted)
      simp only [DesiredBody.matches, Bool.and_eq_true, beq_iff_eq] at matched
      obtain ⟨⟨⟨⟨written, acts⟩, -⟩, -⟩, -⟩ := matched
      exact ⟨isFor source rfl, rule, rfl, acts, compiled.trans (congrArg Except.ok written.symm)⟩

private theorem makesBot_of_desired (source : BotSource) (bot : category.IsBot)
    (made : PolicyRule.desired ⟨category, host, source.action, Group.single source.condition,
      source.action.defaultParameters⟩ = .ok desired) : desired.MakesBot host (some source) := by
  obtain ⟨expression?, written, rfl⟩ := desired_eq_ok made
  have compiles : (Expression.compile (Group.single source.condition) host).map some =
      .ok expression? := by
    cases category with
    | knownBot | verifiedBot => exact written
    | _ => exact bot.elim
  obtain ⟨expression, compiled, rfl⟩ := map_eq_ok.mp compiles
  exact ⟨expression, compiled, rfl⟩

private theorem makesBot_of_knownBot {rule? : Option KnownBotRule}
    (made : DesiredRule.knownBot host rule? = .ok desired) :
    desired.IsOf host .knownBot ∧ desired.MakesBot host (rule?.map KnownBotRule.source) := by
  cases rule? with
  | none =>
    obtain rfl := Except.ok.inj made
    exact ⟨⟨rfl, rfl⟩, rfl⟩
  | some rule =>
    have bot : Category.knownBot.IsBot := trivial
    exact ⟨DesiredRule.isOf_of_desired made, makesBot_of_desired rule.source bot made⟩

private theorem makesBot_of_verifiedBot {rule? : Option VerifiedBotRule}
    (made : DesiredRule.verifiedBot host rule? = .ok desired) :
    desired.IsOf host .verifiedBot ∧
      desired.MakesBot host (rule?.bind VerifiedBotRule.source?) := by
  cases rule? with
  | none =>
    obtain rfl := Except.ok.inj made
    exact ⟨⟨rfl, rfl⟩, rfl⟩
  | some rule =>
    obtain ⟨operator, categories, action⟩ := rule
    cases categories with
    | nil =>
      obtain rfl := Except.ok.inj made
      exact ⟨⟨rfl, rfl⟩, rfl⟩
    | cons first rest =>
      have bot : Category.verifiedBot.IsBot := trivial
      exact ⟨DesiredRule.isOf_of_desired made, makesBot_of_desired ⟨action,
        .of .verifiedBotCategory operator
          (DesiredRule.categoryOperand operator first (first :: rest))⟩ bot made⟩

end Desired

section Served

variable {request : Request} {host : String} {rules : List DesiredRule} {category : Category}

private theorem botSource?_of_mem_categories (bot : category.IsBot)
    (member : category ∈ request.categories) : request.botSource? category ≠ none := by
  cases category with
  | knownBot =>
    cases request with
    | knownBot request => rintro ⟨⟩
    | _ => simp [Request.categories] at member
  | verifiedBot =>
    cases request with
    | verifiedBot request => rintro ⟨⟩
    | _ => simp [Request.categories] at member
  | _ => exact bot.elim

theorem compares_of_valid {request : VerifiedBotRequest} (valid : request.validate = .ok ())
    {rule : VerifiedBotRule} (sent : request.rule = some rule) :
    rule.operator.comparesCategories = true := by
  obtain ⟨⟨⟩, -, valid⟩ := bind_eq_ok.mp valid
  rw [sent] at valid
  cases compares : rule.operator.comparesCategories with
  | true => rfl
  | false => simp [compares] at valid

private theorem isFor_of_valid (valid : request.validate = .ok ()) {source : BotSource}
    (asked : request.botSource? category = some (some source)) : source.IsFor category := by
  unfold Request.botSource? at asked
  split at asked
  · obtain ⟨rule, -, rfl⟩ := Option.map_eq_some_iff.mp (Option.some.inj asked)
    exact rule.isFor_source
  · obtain ⟨rule, sent, made⟩ := Option.bind_eq_some_iff.mp (Option.some.inj asked)
    exact VerifiedBotRule.isFor_source (compares_of_valid valid sent) made
  · cases asked

theorem makesBot_of_request (made : request.desired host = .ok rules) {want : Option BotSource}
    (asked : request.botSource? category = some want) :
    ∃ desired, rules = [desired] ∧ desired.IsOf host category ∧ desired.MakesBot host want := by
  unfold Request.botSource? at asked
  split at asked
  · obtain rfl := Option.some.inj asked
    obtain ⟨desired, built, rfl⟩ := only_eq_ok made
    exact ⟨desired, rfl, makesBot_of_knownBot built⟩
  · obtain rfl := Option.some.inj asked
    obtain ⟨desired, built, rfl⟩ := only_eq_ok made
    exact ⟨desired, rfl, makesBot_of_verifiedBot built⟩
  · cases asked

/-- Whatever a valid request desires is made from what it sends. -/
theorem servedBy_botTopic (request : Request) : botTopic.ServedBy request := by
  intro valid target named rules made
  obtain ⟨domains, categories⟩ := Request.desired_categories made
  refine ⟨domains, fun category bot silent desired member same => ?_, ?_⟩
  · have about : category ∈ request.categories :=
      categories.subset (same ▸ List.mem_map_of_mem member)
    exact botSource?_of_mem_categories bot about silent
  · intro category bot want asked zoneId outcomes before after old stages _
    obtain ⟨desired, rfl, isOf, makes⟩ := makesBot_of_request made asked
    have settled : desired.Settled zoneId after :=
      stages.settled (by simpa using makes.hasMaps) (by simp) desired (List.mem_singleton_self _)
    have made' : BotsFrom category target.name want (desired.held zoneId after) :=
      .of_settled settled makes fun source sent => isFor_of_valid valid (sent ▸ asked)
    rwa [DesiredRule.held, DesiredRule.tag, isOf.category, isOf.domain] at made'

/-- Whatever a request plans settles the bot rules of its hosts. -/
theorem settles_botTopic {planned : List (Subdomain × List DesiredRule)}
    (made : request.plan = .ok planned) : ∀ pair ∈ planned, ∀ desired ∈ pair.2,
      botTopic.Settles desired := by
  intro pair inPlan desired member
  obtain ⟨valid, -, each⟩ := Request.plan_eq_ok made
  obtain ⟨domains, categories⟩ := Request.desired_categories (each pair inPlan)
  have makes : desired.category.IsBot → ∃ want, desired.MakesBot desired.domain want ∧
      ∀ source, want = some source → source.IsFor desired.category := by
    intro bot
    have about := categories.subset (List.mem_map_of_mem member)
    obtain ⟨want, asked⟩ :=
      Option.ne_none_iff_exists'.mp (botSource?_of_mem_categories bot about)
    obtain ⟨only, alone, -, makes⟩ := makesBot_of_request (each pair inPlan) asked
    rw [alone] at member
    obtain rfl := List.mem_singleton.mp member
    rw [← domains _ (alone ▸ member)] at makes
    exact ⟨want, makes, fun source sent => isFor_of_valid valid (sent ▸ asked)⟩
  refine ⟨fun bot => ?_, fun bot zoneId store settled => ?_⟩
  · obtain ⟨want, makes, -⟩ := makes bot
    exact makes.hasMaps
  · obtain ⟨want, makes, isFor⟩ := makes bot
    exact ⟨want, .of_settled settled makes isFor⟩

end Served

end EdgePolicy
