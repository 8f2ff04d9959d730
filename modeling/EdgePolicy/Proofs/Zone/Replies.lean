import EdgePolicy.Proofs.Zone.Containers

/-
What a call does to a platform held in memory.

`Store.Replies` tells, operation by operation, what a call is answered and what the platform is after
it; a refusal, for whatever reason, is one case of it.  Every call is answered so
(`answer_replies`), and what holds of all calls is read off the cases.
-/

set_option autoImplicit false
set_option relaxedAutoImplicit false

namespace EdgePolicy

theorem insertIdx_eq_append {α : Type} (item : α) {items : List α} {index : Nat}
    (bound : index ≤ items.length) :
    items.insertIdx index item = items.take index ++ item :: items.drop index := by
  induction items generalizing index with
  | nil =>
    obtain rfl : index = 0 := by simpa using bound
    rfl
  | cons first rest ih =>
    cases index with
    | zero => rfl
    | succ index =>
      have bound' : index ≤ rest.length := by simpa using bound
      rw [List.insertIdx_succ_cons, ih bound']
      rfl

namespace Store

def logged (store : Store) (call : Call) : Store :=
  { store with calls := store.calls ++ [call] }

/-- The platform after a container was created, whatever was reported. -/
def provision (store : Store) (zoneId : String) (phase : Phase) : Store :=
  { store.addContainer zoneId s!"ruleset-{store.issued + 1}" phase "zone" with
    issued := store.issued + 1, losesRace := false }

theorem index?_le {rules : List RemoteRule} {position : Option Position} {index : Nat}
    (placed : index? rules position = .ok index) : index ≤ rules.length := by
  unfold index? at placed
  split at placed
  · simp only [Except.ok.injEq] at placed
    omega
  all_goals
    split at placed
    · rename_i found
      have bound := (List.findIdx?_eq_some_iff_getElem.mp found).1
      simp only [Except.ok.injEq] at placed
      omega
    · nomatch placed

/-- What a call is answered, and the platform after it. -/
inductive Replies (before : Store) : (call : Call) → Except Error call.Reply → Store → Prop
  | resolved {zone zoneId : String} (known : before.zones.lookup zone = some zoneId) :
      Replies before (.resolveZone zone) (.ok zoneId) before
  | unresolved {zone : String} (unknown : before.zones.lookup zone = none) :
      Replies before (.resolveZone zone) (.error (.zoneNotFound zone)) before
  | listed (zoneId : String) :
      Replies before (.listContainers zoneId)
        (.ok ((before.containers.filter (·.zoneId == zoneId)).map (·.summary))) before
  | provisioned (zoneId : String) (phase : Phase) :
      Replies before (.createContainer zoneId phase)
        (.ok (Store.provisioned zoneId s!"ruleset-{before.issued + 1}" phase "zone").summary)
        (before.provision zoneId phase)
  | lost (zoneId : String) (phase : Phase) :
      Replies before (.createContainer zoneId phase)
        (.error (refusal (Call.containersPath zoneId) 400 .lostRace))
        (before.provision zoneId phase)
  | fetched {zoneId containerId : String} {container : Container}
      (found : before.container? zoneId containerId = some container) :
      Replies before (.fetchContainer zoneId containerId) (.ok container.snapshot) before
  | created {zoneId containerId : String} {body : RuleBody} {container : Container}
      (front back : List RemoteRule)
      (found : before.container? zoneId containerId = some container)
      (shape : container.rules = front ++ back)
      (placed : index? container.rules body.position = .ok front.length) :
      Replies before (.createRule zoneId containerId body)
        (.ok (ruleOf s!"rule-{before.issued + 1}" body))
        ({ before with issued := before.issued + 1 }.withRules zoneId containerId
          (front ++ ruleOf s!"rule-{before.issued + 1}" body :: back))
  | patched {zoneId containerId : String} {body : RuleBody} {container : Container}
      {old : RemoteRule} (front back : List RemoteRule)
      (found : before.container? zoneId containerId = some container)
      (shape : container.rules = front ++ old :: back)
      (others : ∀ other ∈ front, other.id ≠ old.id) :
      Replies before (.patchRule zoneId containerId old.id body) (.ok (Store.patched old body))
        (before.withRules zoneId containerId (front ++ Store.patched old body :: back))
  | deleted {zoneId containerId ruleId : String} {container : Container}
      (found : before.container? zoneId containerId = some container) :
      Replies before (.deleteRule zoneId containerId ruleId) (.ok ())
        (before.withRules zoneId containerId (container.rules.filter (·.id != ruleId)))
  | refused {call : Call} {issued : Nat} (path : String) (status : Nat) (cause : RemoteCause)
      (failure : 300 ≤ status) (later : before.issued ≤ issued) :
      Replies before call (.error (refusal path status cause)) { before with issued }

private theorem perform_replies (call : Call) (store : Store) :
    store.Replies call (perform call store).1 (perform call store).2 := by
  have refused : ∀ {call : Call} (path : String) (status : Nat) (cause : RemoteCause),
      300 ≤ status → store.Replies call (.error (refusal path status cause)) store :=
    fun path status cause failure => .refused path status cause failure (Nat.le_refl _)
  cases call with
  | resolveZone zone =>
    simp only [perform]
    split
    case h_1 zoneId known => exact .resolved known
    case h_2 unknown => exact .unresolved unknown
  | listContainers zoneId => exact .listed zoneId
  | createContainer zoneId phase =>
    cases race : store.losesRace with
    | true =>
      simp only [perform, race]
      exact .lost zoneId phase
    | false =>
      have same : (perform (.createContainer zoneId phase) store).2 =
          store.provision zoneId phase := by
        simp [perform, provision, addContainer, race]
      rw [same]
      simp only [perform, race]
      exact .provisioned zoneId phase
  | fetchContainer zoneId containerId =>
    simp only [perform]
    split
    case h_1 container found => exact .fetched found
    case h_2 absent => exact refused _ _ _ (by decide)
  | createRule zoneId containerId body =>
    simp only [perform]
    split
    case h_1 absent => exact .refused _ _ _ (by decide) (Nat.le_succ _)
    case h_2 container found =>
      split
      case h_1 anchor unplaced => exact .refused _ _ _ (by decide) (Nat.le_succ _)
      case h_2 index placed =>
        have bound := index?_le placed
        have front : (container.rules.take index).length = index := List.length_take_of_le bound
        rw [insertIdx_eq_append _ bound]
        exact .created _ _ found (List.take_append_drop index container.rules).symm
          (front.symm ▸ placed)
  | patchRule zoneId containerId ruleId body =>
    simp only [perform]
    split
    case h_1 absent => exact refused _ _ _ (by decide)
    case h_2 container found =>
      split
      case h_1 unnamed => exact refused _ _ _ (by decide)
      case h_2 old here =>
        obtain ⟨same, front, back, shape, others⟩ := List.find?_eq_some_iff_append.mp here
        obtain rfl := beq_iff_eq.mp same
        have before : ∀ other ∈ front, (other.id == old.id) = false := by simpa using others
        rw [shape, set_findIdx (patched old body) before same]
        exact .patched front back found shape (by simpa using others)
  | deleteRule zoneId containerId ruleId =>
    simp only [perform]
    split
    case h_1 absent => exact refused _ _ _ (by decide)
    case h_2 container found =>
      split
      case isTrue kept => exact refused _ _ _ (by decide)
      case isFalse dropped => exact .deleted found

theorem answer_cases {store : Store} {call : Call}
    (post : Except Error call.Reply → Store → Prop)
    (refused : ∀ fault, call.operation ∈ store.failing → post (.error fault) (store.logged call))
    (answered : call.operation ∉ store.failing →
      post (perform call (store.logged call)).1 (perform call (store.logged call)).2) :
    post (answer call store).1 (answer call store).2 := by
  unfold answer
  by_cases failing : call.operation ∈ store.failing
  · rw [if_pos failing]
    exact refused _ failing
  · rw [if_neg failing]
    exact answered failing

theorem answer_replies {call : Call} {store after : Store} {result : Except Error call.Reply}
    (answered : answer call store = (result, after)) :
    (store.logged call).Replies call result after := by
  unfold answer at answered
  dsimp only at answered
  split at answered
  · cases answered
    exact .refused call.path 500 _ (by decide) (Nat.le_refl _)
  · have replies := perform_replies call (store.logged call)
    have performed : perform call (store.logged call) = (result, after) := answered
    rwa [performed] at replies

theorem answer_fixed (call : Call) (store : Store) :
    (answer call store).2.zones = store.zones ∧ (answer call store).2.failing = store.failing := by
  rcases answered : answer call store with ⟨result, after⟩
  cases answer_replies answered <;> exact ⟨rfl, rfl⟩

theorem answer_calls (call : Call) (store : Store) :
    (answer call store).2.calls = store.calls ++ [call] := by
  rcases answered : answer call store with ⟨result, after⟩
  cases answer_replies answered <;> rfl

theorem answer_fault {call : Call} {store : Store} {fault : Error}
    (failed : (answer call store).1 = .error fault) :
    (∃ zone, call = .resolveZone zone ∧ fault = .zoneNotFound zone) ∨
      ∃ endpoint status cause, fault = .remote endpoint (some status) cause ∧ 300 ≤ status := by
  rcases answered : answer call store with ⟨result, after⟩
  rw [answered] at failed
  subst failed
  cases answer_replies answered with
  | unresolved unknown => exact .inl ⟨_, rfl, rfl⟩
  | lost zoneId phase => exact .inr ⟨_, _, _, rfl, by decide⟩
  | refused path status cause failure later => exact .inr ⟨path, status, cause, rfl, failure⟩

end Store

end EdgePolicy
