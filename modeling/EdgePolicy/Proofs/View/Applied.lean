import EdgePolicy.Proofs.View.Plans
import EdgePolicy.Proofs.View.Topic

/-
Requests applied one after the other.

`Tracks` ties a platform with one zone to what is wanted of it: under the tag of every shown
category and host stands exactly one rule, and it was compiled from the wanted condition, or none
stands there.  What a request plans for a host serves this topic, so requests applied one after the
other take the platform from one such state to the next (`Session.Tracks.applied`); that holds for
every topic (`Topic.Stands.applied`).
-/

set_option autoImplicit false
set_option relaxedAutoImplicit false

namespace EdgePolicy

open Session (Leads onStore)

/-- The rules under the tag of a host were compiled from what is wanted. -/
def HeldAs (host : String) : Option Condition → List RemoteRule → Prop
  | none, rules => rules = []
  | some condition, rules => ∃ rule, rules = [rule] ∧ host ≠ "" ∧
      Expression.compile (Group.single condition) host = .ok rule.expression ∧
      Expression.Tame condition

/-- The rules of a zone with the tag of a category and host were compiled from what is wanted. -/
def Store.Shows (store : Store) (zoneId : String) (category : Category) (host : String)
    (want : Option Condition) : Prop :=
  HeldAs host want (store.tagged zoneId .firewall (category.tag host))

/-- A platform with one zone, and what is wanted of it. -/
structure Session.Tracks (zone zoneId : String) (want : Category → String → Option Condition)
    (session : Session Store) : Prop where
  zones : session.platform.zones = [(zone, zoneId)]
  failing : session.platform.failing = []
  wellFormed : session.platform.WellFormed
  shown : ∀ category : Category, category.InView → ∀ host,
    session.platform.Shows zoneId category host (want category host)

section

variable {zoneId host : String} {category : Category} {store : Store} {want : Option Condition}

private theorem phase_of_inView (inView : category.InView) : category.phase = .firewall := by
  cases category with
  | blacklist | whitelist | country => rfl
  | _ => exact inView.elim

theorem labelled_of_inView (inView : category.InView) : category ≠ .ddosOverride := by
  rintro rfl
  exact inView

theorem DesiredRule.Settled.shown {desired : DesiredRule} (settled : desired.Settled zoneId store)
    (inView : category.InView) (about : desired.category = category)
    (domain : desired.domain = host) (holds : desired.Holds host want) :
    store.Shows zoneId category host want := by
  obtain ⟨rule?, was, accepted⟩ := settled
  have held : store.tagged zoneId .firewall (category.tag host) = rule?.toList := by
    rw [← was, DesiredRule.held, DesiredRule.tag, about, domain, phase_of_inView inView]
  cases want with
  | none =>
    have absent : desired.body = none := holds
    cases rule? with
    | none => exact held
    | some rule =>
      obtain ⟨body, wanted, -⟩ := accepted
      cases absent.symm.trans wanted
  | some condition =>
    obtain ⟨body, wanted, named, compiled, tame⟩ := holds
    cases rule? with
    | none =>
      have absent : desired.body = none := accepted
      cases absent.symm.trans wanted
    | some rule =>
      obtain ⟨body', wanted', matched⟩ := accepted
      obtain rfl := Option.some.inj (wanted.symm.trans wanted')
      have same : rule.expression = body.expression := by
        simp only [DesiredBody.matches, Bool.and_eq_true, beq_iff_eq] at matched
        exact matched.1.1.1.1
      exact ⟨rule, held, named, same ▸ compiled, tame⟩

end

def listTopic : Topic (Option Condition) where
  Includes := Category.InView
  asks := Request.condition?
  Bears _ := HeldAs
  labelled _ := labelled_of_inView

theorem Plans.serves {request : Request} {host : String} {rules : List DesiredRule}
    (plans : Plans request host rules) : listTopic.Serves request host rules := by
  refine ⟨plans.domain, plans.silent, ?_⟩
  intro category inView want spoken zoneId outcomes before after old stages _
  have speaks : ∃ category : Category, category.InView ∧ request.condition? category ≠ none :=
    ⟨category, inView, fun silent => nomatch silent.symm.trans spoken⟩
  obtain ⟨desired, member, about, holds⟩ := plans.holds category inView want spoken
  have settled := stages.settled (plans.maps speaks) (plans.agree speaks) desired member
  rw [phase_of_inView inView]
  exact settled.shown inView about (plans.domain desired member) holds

private theorem servedBy_listTopic (request : Request) : listTopic.ServedBy request :=
  fun valid _ member _ made => (plans_of_desired valid member made).serves

/-- Requests applied one after the other, all of them successfully. -/
inductive Session.Applied : List Request → Session Store → Session Store → Prop
  | none (session : Session Store) : Applied [] session session
  | request {request : Request} {rest : List Request} {session middle after : Session Store}
      (runId : RunId) (now : Timestamp) (reports : List Report)
      (applied : onStore runId now request.apply session = (.ok reports, middle))
      (more : Applied rest middle after) : Applied (request :: rest) session after

theorem names_iff {request : Request} {host : String} :
    request.names host = true ↔ host ∈ request.targets.map (·.name) := by
  simp [Request.names]

/-- What is wanted of a category and host after some requests. -/
def Topic.after {α : Type} (topic : Topic α) (requests : List Request)
    (want : Category → String → α) (category : Category) (host : String) : α :=
  (lastSaid (topic.asks category) host requests).getD (want category host)

/-- Successful requests leave the platform with what they last wanted. -/
theorem Topic.Stands.applied {α : Type} {topic : Topic α} {zone zoneId : String}
    {requests : List Request} {want : Category → String → α} {session after : Session Store}
    (applied : Session.Applied requests session after)
    (served : ∀ request ∈ requests, topic.ServedBy request)
    (stands : topic.Stands zone zoneId want session) :
    topic.Stands zone zoneId (topic.after requests want) after := by
  induction applied generalizing want with
  | none session => exact stands
  | @request request rest session middle after runId now reports applied more ih =>
    simp only [List.forall_mem_cons] at served
    have next := (stands.apply_leads served.1).elim applied
    have last := ih served.2 next
    have same : topic.after rest (topic.update request (request.targets.map (·.name)) want) =
        topic.after (request :: rest) want := by
      funext category host
      unfold Topic.after lastSaid Topic.update
      rw [List.reverse_cons, List.findSome?_append]
      cases later : rest.reverse.findSome? fun request =>
          if request.names host then topic.asks category request else none with
      | some wanted => rfl
      | none =>
        by_cases named : host ∈ request.targets.map (·.name)
        · have named' := names_iff.mpr named
          simp [named, named']
        · have named' : request.names host = false := by
            rwa [← Bool.not_eq_true, names_iff]
          simp [named, named']
    rwa [same] at last

/-- The condition that is wanted of a category and host after some requests. -/
def wantedAfter (requests : List Request) (want : Category → String → Option Condition)
    (category : Category) (host : String) : Option Condition :=
  (lastSaid (Request.condition? category) host requests).getD (want category host)

namespace Session.Tracks

variable {zone zoneId : String} {want : Category → String → Option Condition}
  {session after : Session Store}

private theorem iff_stands :
    Tracks zone zoneId want session ↔ listTopic.Stands zone zoneId want session := by
  constructor
  · rintro ⟨zones, failing, wellFormed, shown⟩
    refine ⟨zones, failing, wellFormed, fun category inView host => ?_⟩
    rw [phase_of_inView inView]
    exact shown category inView host
  · rintro ⟨zones, failing, wellFormed, borne⟩
    refine ⟨zones, failing, wellFormed, fun category inView host => ?_⟩
    have held := borne category inView host
    rwa [phase_of_inView inView] at held

theorem of_empty (zones : session.platform.zones = [(zone, zoneId)])
    (working : session.platform.failing = []) (empty : session.platform.containers = []) :
    Tracks zone zoneId (fun _ _ => none) session :=
  iff_stands.mpr (.of_empty zones working empty fun _ _ _ => rfl)

/-- Successful requests leave the platform with what they last wanted. -/
theorem applied {requests : List Request} (applied : Session.Applied requests session after)
    (tracks : Tracks zone zoneId want session) :
    Tracks zone zoneId (wantedAfter requests want) after :=
  iff_stands.mpr ((iff_stands.mp tracks).applied applied fun request _ =>
    servedBy_listTopic request)

end Session.Tracks

end EdgePolicy
