import EdgePolicy.Apply
import EdgePolicy.Proofs.Except
import EdgePolicy.Proofs.Policy.Tags
import EdgePolicy.Proofs.Reconcile.Requests
import EdgePolicy.Proofs.Reconcile.Retry
import EdgePolicy.Proofs.Reconcile.Stages
import EdgePolicy.Proofs.View.Said

/-
What requests bring about under the tags of some categories.

A topic says what a request wants of a category, for every host that the request names, and when the
rules under the tag of the category and the host bear it out.  What is proved of a topic is one
thing: whatever a request plans for one of its hosts serves the topic (`Topic.Serves`).  Then each
host of a request takes a platform with one zone from a state that bears out what was wanted before
to one that bears out what is wanted now (`Topic.Holds.apply_leads`).  Requests that fail leave it in
a state that bears something out (`Session.Requested.holds`).
-/

set_option autoImplicit false
set_option relaxedAutoImplicit false

namespace EdgePolicy

open Session (Advance Leads onStore)

/-- What requests say of the rules of some categories, and when rules bear it out. -/
structure Topic (α : Type) where
  Includes : Category → Prop
  asks : Category → Request → Option α
  Bears : Category → String → α → List RemoteRule → Prop
  labelled : ∀ category, Includes category → category ≠ .ddosOverride

namespace Topic

variable {α : Type} {topic : Topic α}

/-- The rules that a request desires for a host bring about what it says, under the tags it speaks
about, and leave the other tags of the topic alone. -/
structure Serves (topic : Topic α) (request : Request) (host : String) (rules : List DesiredRule) :
    Prop where
  domain : ∀ desired ∈ rules, desired.domain = host
  silent : ∀ category, topic.Includes category → topic.asks category request = none →
    ∀ desired ∈ rules, desired.category ≠ category
  brings : ∀ category, topic.Includes category → ∀ said, topic.asks category request = some said →
    ∀ (zoneId : String) (outcomes : List Outcome) (before after : Store) (old : α),
      DesiredRule.Stages zoneId rules outcomes before after →
      topic.Bears category host old (before.tagged zoneId category.phase (category.tag host)) →
      topic.Bears category host said (after.tagged zoneId category.phase (category.tag host))

/-- A platform with one zone bears out what is wanted of it, whichever operations are failing. -/
structure Holds (topic : Topic α) (zone zoneId : String) (want : Category → String → α)
    (session : Session Store) : Prop where
  zones : session.platform.zones = [(zone, zoneId)]
  wellFormed : session.platform.WellFormed
  borne : ∀ category, topic.Includes category → ∀ host,
    topic.Bears category host (want category host)
      (session.platform.tagged zoneId category.phase (category.tag host))

/-- A platform with one zone works, and bears out what is wanted of it. -/
structure Stands (topic : Topic α) (zone zoneId : String) (want : Category → String → α)
    (session : Session Store) : Prop where
  zones : session.platform.zones = [(zone, zoneId)]
  failing : session.platform.failing = []
  wellFormed : session.platform.WellFormed
  borne : ∀ category, topic.Includes category → ∀ host,
    topic.Bears category host (want category host)
      (session.platform.tagged zoneId category.phase (category.tag host))

/-- What is wanted after a request was brought to some hosts. -/
def update (topic : Topic α) (request : Request) (hosts : List String)
    (want : Category → String → α) (category : Category) (host : String) : α :=
  if host ∈ hosts then (topic.asks category request).getD (want category host)
  else want category host

private theorem update_append (topic : Topic α) (request : Request) (host : String)
    (hosts : List String) (want : Category → String → α) :
    topic.update request hosts (topic.update request [host] want) =
      topic.update request (host :: hosts) want := by
  funext category other
  unfold update
  by_cases here : other = host
  · subst here
    cases topic.asks category request <;> simp
  · by_cases later : other ∈ hosts <;> simp [here, later]

namespace Holds

variable {zone zoneId : String} {want : Category → String → α} {session after : Session Store}
  {runId : RunId} {now : Timestamp} {request : Request}

theorem logged (holds : topic.Holds zone zoneId want session) (call : Call) :
    topic.Holds zone zoneId want (session.logged call) :=
  ⟨holds.zones, Session.wellFormed_logged holds.wellFormed call, holds.borne⟩

theorem reconciled (holds : topic.Holds zone zoneId want session) {host : String}
    {rules : List DesiredRule} (serves : topic.Serves request host rules) {calls : List Call}
    {outcomes : List Outcome}
    (advance : Advance zoneId (DesiredRule.allTargets rules) calls session after)
    (stages : DesiredRule.Stages zoneId rules outcomes session.platform after.platform) :
    topic.Holds zone zoneId (topic.update request [host] want) after := by
  refine ⟨advance.zones.trans holds.zones,
    advance.edits.wellFormed holds.wellFormed, fun category included other => ?_⟩
  have framed := advance.edits.framed holds.wellFormed
  have kept := holds.borne category included other
  -- Nothing is done under a tag that no rule of the host has.
  have spared : (∀ desired ∈ rules, desired.tag ≠ category.tag other) →
      topic.Bears category other (want category other)
        (after.platform.tagged zoneId category.phase (category.tag other)) := by
    intro others
    rw [framed.tagged_other (.inr _)]
    · exact kept
    · rintro ⟨desired, member, -, same⟩
      exact others desired member same.symm
  have tags : ∀ desired ∈ rules, desired.tag = category.tag other →
      desired.category = category ∧ other = host := by
    intro desired member same
    obtain ⟨rfl, rfl⟩ := Category.tag_injective (topic.labelled category included) same.symm
    exact ⟨rfl, serves.domain desired member⟩
  unfold update
  by_cases here : other = host
  · subst here
    rw [if_pos (List.mem_singleton_self _)]
    cases spoken : topic.asks category request with
    | none =>
      refine spared fun desired member same => ?_
      exact serves.silent category included spoken desired member (tags desired member same).1
    | some said => exact serves.brings category included said spoken _ _ _ _ _ stages kept
  · rw [if_neg (by simpa using here)]
    exact spared fun desired member same => here (tags desired member same).2

private theorem converge_leads (holds : topic.Holds zone zoneId want session) {target : Subdomain}
    {rules : List DesiredRule} (serves : topic.Serves request target.name rules) :
    Leads runId now (target.converge rules) session fun result after =>
      match result with
      | .ok _ => topic.Holds zone zoneId (topic.update request [target.name] want) after
      | .error _ => True := by
  unfold Subdomain.converge
  refine .bind (.resolveZone (fun _ _ => trivial) fun found known => ?_)
  have same : found = zoneId := by
    rw [holds.zones, List.lookup_cons] at known
    split at known
    · exact (Option.some.inj known).symm
    · nomatch known
  subst same
  have holds' := holds.logged (.resolveZone target.zone)
  refine .bind ((DesiredRule.reconcileAll_leads runId now found rules holds'.wellFormed).imp
    fun result after ends => ?_)
  obtain ⟨calls, advance, ends⟩ := ends
  cases result with
  | error fault => trivial
  | ok outcomes => exact .pure (holds'.reconciled serves advance ends)

private theorem convergeAll_leads {planned : List (Subdomain × List DesiredRule)}
    (serves : ∀ pair ∈ planned, topic.Serves request pair.1.name pair.2)
    (holds : topic.Holds zone zoneId want session) :
    Leads runId now (Subdomain.convergeAll planned) session fun result after =>
      match result with
      | .ok _ => topic.Holds zone zoneId (topic.update request (planned.map (·.1.name)) want) after
      | .error _ => True := by
  induction planned generalizing session want with
  | nil => exact .pure holds
  | cons first rest ih =>
    obtain ⟨target, rules⟩ := first
    simp only [List.forall_mem_cons] at serves
    refine .bind ((converge_leads holds serves.1).imp fun result middle ends => ?_)
    cases result with
    | error fault => trivial
    | ok report =>
      refine .bind ((ih serves.2 ends).imp fun result after ends' => ?_)
      cases result with
      | error fault => trivial
      | ok reports =>
        rw [update_append] at ends'
        exact .pure ends'

end Holds

end Topic

theorem Request.plan_eq_ok {request : Request} {planned : List (Subdomain × List DesiredRule)}
    (made : request.plan = .ok planned) : request.validate = .ok () ∧
      planned.map (·.1) = request.targets ∧
      ∀ pair ∈ planned, request.desired pair.1.name = .ok pair.2 := by
  obtain ⟨⟨⟩, checked, built⟩ := bind_eq_ok.mp made
  have each := forall₂_of_mapM built
  clear made built
  refine ⟨mapError_eq_ok.mp checked, ?_⟩
  generalize request.targets = targets at each ⊢
  induction each with
  | nil => exact ⟨rfl, List.forall_mem_nil _⟩
  | @cons target pair targets pairs head tail ih =>
    obtain ⟨rules, desired, rfl⟩ := map_eq_ok.mp head
    exact ⟨congrArg (target :: ·) ih.1, List.forall_mem_cons.mpr ⟨desired, ih.2⟩⟩

/-- Whatever a valid request desires for a host that it names serves a topic. -/
def Topic.ServedBy {α : Type} (topic : Topic α) (request : Request) : Prop :=
  request.validate = .ok () → ∀ target ∈ request.targets, ∀ rules,
    request.desired target.name = .ok rules → topic.Serves request target.name rules

section

variable {α : Type} {topic : Topic α} {zone zoneId : String} {want : Category → String → α}
  {session : Session Store} {runId : RunId} {now : Timestamp} {request : Request}

/-- A successful request leaves the platform with what it wants. -/
theorem Topic.Holds.apply_leads (served : topic.ServedBy request)
    (holds : topic.Holds zone zoneId want session) :
    Leads runId now request.apply session fun result after =>
      match result with
      | .ok _ => topic.Holds zone zoneId
          (topic.update request (request.targets.map (·.name)) want) after
      | .error _ => True := by
  unfold Request.apply
  refine .bind (.done ?_)
  cases planned : request.plan with
  | error fault => trivial
  | ok pairs =>
    obtain ⟨valid, targets, each⟩ := Request.plan_eq_ok planned
    have serves : ∀ pair ∈ pairs, topic.Serves request pair.1.name pair.2 := by
      intro pair member
      have named : pair.1 ∈ request.targets := targets ▸ List.mem_map_of_mem member
      exact served valid pair.1 named pair.2 (each pair member)
    rw [← targets, List.map_map]
    exact Topic.Holds.convergeAll_leads serves holds

namespace Topic.Stands

theorem of_empty (zones : session.platform.zones = [(zone, zoneId)])
    (working : session.platform.failing = []) (empty : session.platform.containers = [])
    (nothing : ∀ category, topic.Includes category → ∀ host,
      topic.Bears category host (want category host) []) :
    topic.Stands zone zoneId want session := by
  refine ⟨zones, working, ?_, fun category included host => ?_⟩
  · exact Store.wellFormed_empty.of_containers_eq empty (Nat.zero_le _)
  · rw [Store.tagged_of_none]
    · exact nothing category included host
    · rw [Store.serving?, empty]
      rfl

/-- A successful request leaves a platform that works with what it wants, and working. -/
theorem apply_leads (served : topic.ServedBy request)
    (stands : topic.Stands zone zoneId want session) :
    Leads runId now request.apply session fun result after =>
      match result with
      | .ok _ => topic.Stands zone zoneId
          (topic.update request (request.targets.map (·.name)) want) after
      | .error _ => True := by
  have holds : topic.Holds zone zoneId want session :=
    ⟨stands.zones, stands.wellFormed, stands.borne⟩
  refine ((holds.apply_leads served).and (.fixed request.apply)).imp
    fun result after ⟨ends, _, failing⟩ => ?_
  cases result with
  | error fault => trivial
  | ok reports => exact ⟨ends.zones, failing.trans stands.failing, ends.wellFormed, ends.borne⟩

end Topic.Stands

end

/-- Requests made one after the other, whether or not they succeed, and between them whatever is not
about zones and containers is set: the operations that fail, whether the race for a container is
lost, the logbook. -/
inductive Session.Requested : Session Store → Session Store → Prop
  | done (session : Session Store) : Requested session session
  | applied {session last : Session Store} (runId : RunId) (now : Timestamp) (request : Request)
      (more : Requested (onStore runId now request.apply session).2 last) : Requested session last
  | set {session last : Session Store} (changed : Session Store)
      (zones : changed.platform.zones = session.platform.zones)
      (containers : changed.platform.containers = session.platform.containers)
      (issued : changed.platform.issued = session.platform.issued)
      (more : Requested changed last) : Requested session last

/-- Wherever an entry is settled, its rules bear out something. -/
structure Topic.Settles {α : Type} (topic : Topic α) (desired : DesiredRule) : Prop where
  maps : topic.Includes desired.category → desired.HasMaps
  bears : topic.Includes desired.category → ∀ zoneId store, desired.Settled zoneId store →
    ∃ said, topic.Bears desired.category desired.domain said (desired.held zoneId store)

section

variable {α : Type} {topic : Topic α} {zone zoneId : String} {desired : DesiredRule}

theorem Topic.Settles.keeps (settles : topic.Settles desired) :
    desired.Keeps fun session => ∃ want, topic.Holds zone zoneId want session := by
  rintro runId now zoneId' session ⟨want, holds⟩
  have settled : Leads runId now (desired.reconcile zoneId') session fun _ after =>
      topic.Includes desired.category → desired.Settled zoneId' after.platform ∨
        desired.held zoneId' after.platform = desired.held zoneId' session.platform := by
    by_cases included : topic.Includes desired.category
    · refine (DesiredRule.reconcile_settles holds.wellFormed (settles.maps included)).imp
        fun result after ends _ => ?_
      cases result with
      | ok outcome => exact .inl ends
      | error fault => exact ends
    · exact fun included' => absurd included' included
  refine ((DesiredRule.reconcile_leads holds.wellFormed).and settled).imp
    fun result after ⟨⟨calls, advance, _⟩, ends⟩ => ?_
  have framed := advance.edits.framed holds.wellFormed
  have borne : ∀ category, topic.Includes category → ∀ host, ∃ said, topic.Bears category host said
      (after.platform.tagged zoneId category.phase (category.tag host)) := by
    intro category included host
    have kept := holds.borne category included host
    by_cases here : zoneId = zoneId' ∧ desired.targets category.phase (category.tag host)
    · obtain ⟨rfl, -, same⟩ := here
      obtain ⟨about, rfl⟩ := Category.tag_injective (topic.labelled category included) same
      subst about
      rcases ends included with settled | still
      · exact settles.bears included zoneId _ settled
      · refine ⟨want desired.category desired.domain, ?_⟩
        rwa [← DesiredRule.tag, ← DesiredRule.held, still]
    · rw [framed.tagged_other (not_and_or.mp here)]
      exact ⟨_, kept⟩
  classical
  choose said bears using borne
  refine ⟨fun category host => if included : topic.Includes category then
      said category included host else want category host, advance.zones.trans holds.zones,
    advance.edits.wellFormed holds.wellFormed, fun category included host => ?_⟩
  rw [dif_pos included]
  exact bears category included host

variable {start last : Session Store}

/-- After every history of requests whose entries settle what a topic is about, the platform bears
out something. -/
theorem Session.Requested.holds (requested : Session.Requested start last)
    (settles : ∀ request : Request, ∀ planned, request.plan = .ok planned → ∀ pair ∈ planned,
      ∀ desired ∈ pair.2, topic.Settles desired) {want : Category → String → α}
    (holds : topic.Holds zone zoneId want start) : ∃ want, topic.Holds zone zoneId want last := by
  have some : ∃ want, topic.Holds zone zoneId want start := ⟨want, holds⟩
  clear holds
  induction requested with
  | done session => exact some
  | applied runId now request more ih =>
    have keeps : ∀ planned, request.plan = .ok planned → ∀ pair ∈ planned, ∀ desired ∈ pair.2,
        desired.Keeps fun session => ∃ want, topic.Holds zone zoneId want session :=
      fun planned made pair member desired listed =>
        (settles request planned made pair member desired listed).keeps
    exact ih (Request.apply_keeps (fun _ call ⟨want, holds⟩ => ⟨want, holds.logged call⟩) keeps some)
  | set changed zones containers issued more ih =>
    obtain ⟨want, holds⟩ := some
    refine ih ⟨want, zones.trans holds.zones,
      holds.wellFormed.of_containers_eq containers (Nat.le_of_eq issued.symm),
      fun category included host => ?_⟩
    rw [Store.tagged_of_containers containers]
    exact holds.borne category included host

end

end EdgePolicy
