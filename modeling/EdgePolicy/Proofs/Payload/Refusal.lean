import EdgePolicy.Proofs.Except
import EdgePolicy.Proofs.Zone.Faults

/-
A request that cannot be carried out as it stands touches nothing.

A request is planned as a whole before anything is done, and only its plan blames what it asks for:
every later fault comes from the platform, from the rules it holds or from the journal.  So a request
that is refused for what it asks has made no call, and one with any fault in it is refused so
(`Request.apply_refused`).
-/

set_option autoImplicit false
set_option relaxedAutoImplicit false

namespace EdgePolicy

open Session (Leads onStore)

/-- The fault is one of the request itself. -/
def Error.blamesRequest : Error → Bool
  | payload _ | condition _ => true
  | _ => false

theorem Error.OfPlatform.blameless {fault : Error} (ofPlatform : fault.OfPlatform) :
    fault.blamesRequest = false := by
  cases ofPlatform <;> rfl

section Faults

variable {host : String} {fault : Error}

private theorem blames_of_condition {α : Type} {first : Except ConditionFault α}
    (refused : first.mapError .condition = .error fault) : fault.blamesRequest = true := by
  obtain ⟨_, -, rfl⟩ := mapError_eq_error.mp refused
  rfl

private theorem blames_of_payload {α : Type} {first : Except PayloadFault α}
    (refused : first.mapError .payload = .error fault) : fault.blamesRequest = true := by
  obtain ⟨_, -, rfl⟩ := mapError_eq_error.mp refused
  rfl

private theorem customFrom_blames {index : Nat} {seen : List CustomKey} {rules : List CustomRule}
    (refused : DesiredRule.customFrom host index seen rules = .error fault) :
    fault.blamesRequest = true := by
  induction rules generalizing index seen with
  | nil => nomatch refused
  | cons rule rest ih =>
    unfold DesiredRule.customFrom at refused
    rcases bind_eq_error.mp refused with unkeyed | ⟨key, -, refused⟩
    · exact blames_of_payload unkeyed
    dsimp only at refused
    split at refused
    · obtain rfl := Except.error.inj refused
      rfl
    · rcases bind_eq_error.mp refused with unwritten | ⟨desired, -, refused⟩
      · exact blames_of_condition unwritten
      · rcases bind_eq_error.mp refused with later | ⟨others, -, ended⟩
        · exact ih later
        · nomatch ended

private theorem only_blames {rule : Except ConditionFault DesiredRule}
    (refused : Request.only rule = .error fault) : fault.blamesRequest = true :=
  blames_of_condition refused

private theorem Request.desired_blames {request : Request}
    (refused : request.desired host = .error fault) : fault.blamesRequest = true := by
  cases request with
  | blacklist request | whitelist request | country request | knownBot request
  | verifiedBot request | cache request | ddos request => exact only_blames refused
  | custom request => exact customFrom_blames refused
  | teardown request => nomatch refused

private theorem Request.plan_blames {request : Request} (refused : request.plan = .error fault) :
    fault.blamesRequest = true := by
  rcases bind_eq_error.mp refused with invalid | ⟨-, -, refused⟩
  · exact blames_of_payload invalid
  · obtain ⟨target, -, refused⟩ := exists_of_mapM_error refused
    rcases bind_eq_error.mp refused with unbuilt | ⟨rules, -, ended⟩
    · exact desired_blames unbuilt
    · nomatch ended

private theorem Request.plan_fails {request : Request}
    (faulty : (∃ fault, request.validate = .error fault) ∨
      ∃ target ∈ request.targets, ∃ fault, request.desired target.name = .error fault) :
    ∃ fault, request.plan = .error fault := by
  unfold plan
  cases checked : request.validate with
  | error fault => exact ⟨.payload fault, rfl⟩
  | ok =>
    rcases faulty with ⟨fault, invalid⟩ | ⟨target, member, fault, unbuilt⟩
    · exact nomatch checked.symm.trans invalid
    · exact mapM_error_of_mem member (bind_eq_error.mpr (.inl unbuilt))

end Faults

section Runs

variable (runId : RunId) (now : Timestamp) (session : Session Store)

private theorem Request.apply_of_plan_error {request : Request} {fault : Error}
    (refused : request.plan = .error fault) :
    onStore runId now request.apply session = (.error fault, session) := by
  unfold apply
  rw [refused]
  rfl

private theorem Request.apply_blameless {request : Request}
    {planned : List (Subdomain × List DesiredRule)} (made : request.plan = .ok planned) :
    Leads runId now request.apply session fun result _ =>
      ∀ fault, result = .error fault → fault.blamesRequest = false := by
  have fails : (Subdomain.convergeAll planned).FailsWith (·.blamesRequest = false) :=
    .convergeAll (fun _ _ => rfl) (fun _ _ _ => rfl) planned
  unfold apply
  rw [made]
  exact Leads.fails fails (fun _ ofPlatform => ofPlatform.blameless) (fun _ => rfl) session

/-- A request that fails for what it asks has touched nothing: no call was made, so the platform is
as it was, and nothing was recorded.  And a request fails so whenever it is not valid or the rules
of a single one of its hosts cannot be built. -/
theorem Request.apply_refused (request : Request) :
    (∀ fault after, onStore runId now request.apply session = (.error fault, after) →
      fault.blamesRequest = true → after = session) ∧
    ((∃ fault, request.validate = .error fault) ∨
        (∃ target ∈ request.targets, ∃ fault, request.desired target.name = .error fault) →
      ∃ fault, fault.blamesRequest = true ∧
        onStore runId now request.apply session = (.error fault, session)) := by
  constructor
  · intro fault after ended blames
    cases planned : request.plan with
    | error other =>
      rw [apply_of_plan_error runId now session planned] at ended
      exact (Prod.mk.inj ended).2.symm
    | ok rules =>
      have blameless := (apply_blameless runId now session planned).elim ended fault rfl
      exact nomatch blames.symm.trans blameless
  · intro faulty
    obtain ⟨fault, refused⟩ := plan_fails faulty
    exact ⟨fault, plan_blames refused, apply_of_plan_error runId now session refused⟩

end Runs

/-- A platform with the zone of a request. -/
def zonedSession : Session Store where
  platform := Store.empty.addZone "example.com" "zone"
  logbook := .empty "journal"

/-- A request whose last host only has a blank name. -/
def blankRequest : Request :=
  .blacklist ⟨[⟨"example.com", "a.example.com"⟩, ⟨"example.com", " "⟩], ["192.0.2.1"]⟩

/-- A request whose last custom rule only lacks the name of a header. -/
def namelessRequest : Request :=
  .custom ⟨[⟨"example.com", "a.example.com"⟩],
    [⟨.block, [.of .fullUri .contains (.one "/admin")]⟩,
      ⟨.block, [.of .header .eq (.one "x")]⟩]⟩

theorem Request.apply_refused_sample :
    (onStore default default blankRequest.apply zonedSession =
        (.error (.condition .blankDomain), zonedSession)) ∧
      ∃ fault, fault.blamesRequest = true ∧
        onStore default default namelessRequest.apply zonedSession = (.error fault, zonedSession) := by
  have blank : (onStore default default blankRequest.apply zonedSession).1 =
      .error (.condition .blankDomain) := by decide +kernel
  have unbuilt : (namelessRequest.desired "a.example.com").isOk = false := by decide +kernel
  refine ⟨Prod.ext blank ?_, ?_⟩
  · exact (apply_refused default default zonedSession blankRequest).1 _ _ (Prod.ext blank rfl) rfl
  · cases made : namelessRequest.desired "a.example.com" with
    | ok rules =>
      rw [made] at unbuilt
      nomatch unbuilt
    | error fault =>
      exact (apply_refused default default zonedSession namelessRequest).2
        (.inr ⟨⟨"example.com", "a.example.com"⟩, List.mem_singleton_self _, fault, made⟩)

end EdgePolicy
