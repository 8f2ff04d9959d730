import EdgePolicy.Proofs.Reconcile.Conclude

/-
What reconciling one entry does to a platform, exactly.

`Revision` says outcome by outcome what becomes of the rules of the container that is fetched, and
`Carried` what becomes of the platform; neither asks anything of the identifiers that the platform
holds.  A run that succeeds carries its entry out.  A run that fails leaves the platform as it was,
or with the container that the entry needs, or, when the decision could not be recorded, carried out
(`reconcile_carries`).  There is one way to carry an entry out (`Carried.unique`).
-/

set_option autoImplicit false
set_option relaxedAutoImplicit false

namespace EdgePolicy

open Session (Leads)

section Holding

variable {store other : Store} (same : store.holding = other.holding)

include same

theorem Store.serving?_of_holding (zoneId : String) (phase : Phase) :
    store.serving? zoneId phase = other.serving? zoneId phase := by
  unfold Store.serving?
  rw [Store.containers_of_holding same]

theorem Store.container?_of_holding (zoneId containerId : String) :
    store.container? zoneId containerId = other.container? zoneId containerId := by
  unfold Store.container?
  rw [Store.containers_of_holding same]

private theorem Store.withRules_of_holding (zoneId containerId : String) (rules : List RemoteRule) :
    (store.withRules zoneId containerId rules).containers =
      (other.withRules zoneId containerId rules).containers := by
  unfold Store.withRules
  rw [Store.containers_of_holding same]

private theorem Store.provision_of_holding (zoneId : String) (phase : Phase) :
    (store.provision zoneId phase).holding = (other.provision zoneId phase).holding := by
  have issued := Store.issued_of_holding same
  refine Store.holding_eq ?_ ?_
  · show store.containers ++ [_] = other.containers ++ [_]
    rw [Store.containers_of_holding same, issued]
  · show store.issued + 1 = other.issued + 1
    rw [issued]

end Holding

namespace DesiredRule

/-- The platform with the container that an entry needs. -/
def provided (desired : DesiredRule) (zoneId : String) (store : Store) : Store :=
  match desired.body, store.serving? zoneId desired.category.phase with
  | some _, none => store.provision zoneId desired.category.phase
  | _, _ => store

/-- How an entry revises the rules of a container, by its outcome: the rules and the number of
identifiers after it. -/
inductive Revision (desired : DesiredRule) (container : Container) (issued : Nat) :
    Outcome → List RemoteRule → Nat → Prop
  | kept (rule? : Option RemoteRule)
      (was : container.rules.filter (·.tag == desired.tag) = rule?.toList)
      (accepted : desired.Accepts rule?) :
      Revision desired container issued (.unchanged (rule?.map (·.id))) container.rules issued
  | created (body : DesiredBody) (index : Nat) (wanted : desired.body = some body)
      (was : container.rules.filter (·.tag == desired.tag) = [])
      (placed : Store.index? container.rules (desired.category.position? container.snapshot) =
        .ok index) :
      Revision desired container issued
        (.created s!"rule-{issued + 1}" (desired.category.position? container.snapshot))
        (container.rules.insertIdx index (Store.ruleOf s!"rule-{issued + 1}"
          (body.request desired.tag (desired.category.position? container.snapshot))))
        (issued + 1)
  | patched (body : DesiredBody) (old rule : RemoteRule) (wanted : desired.body = some body)
      (was : container.rules.filter (·.tag == desired.tag) = [old])
      (differs : body.matches old = false)
      (here : container.rules.find? (·.id == old.id) = some rule) :
      Revision desired container issued (.patched old.id)
        (container.rules.set (container.rules.findIdx (·.id == old.id))
          (Store.patched rule (body.request desired.tag none))) issued
  | deleted (old : RemoteRule) (unwanted : desired.body = none)
      (was : container.rules.filter (·.tag == desired.tag) = [old]) :
      Revision desired container issued (.deleted old.id)
        (container.rules.filter (·.id != old.id)) issued

/-- An entry carried out on a platform: the outcome and what the platform holds afterwards.  An
entry that wants no rule needs no container; any other revises the container that is fetched under
the identifier of the serving one. -/
inductive Carried (desired : DesiredRule) (zoneId : String) (before : Store) :
    Outcome → List Container × Nat → Prop
  | idle (unwanted : desired.body = none)
      (absent : before.serving? zoneId desired.category.phase = none) :
      Carried desired zoneId before (.unchanged none) before.holding
  | revised {outcome : Outcome} {rules : List RemoteRule} {issued : Nat}
      (serving container : Container)
      (serves : (desired.provided zoneId before).serving? zoneId desired.category.phase =
        some serving)
      (found : (desired.provided zoneId before).container? zoneId serving.summary.id =
        some container)
      (revision : desired.Revision container (desired.provided zoneId before).issued outcome rules
        issued) :
      Carried desired zoneId before outcome
        (((desired.provided zoneId before).withRules zoneId serving.summary.id rules).containers,
          issued)

variable {desired : DesiredRule} {zoneId containerId : String} {before other : Store}
  {container : Container} {session : Session Store} {runId : RunId} {now : Timestamp}
  {outcome : Outcome} {rules : List RemoteRule} {issued : Nat}

private theorem provided_of_holding (same : before.holding = other.holding) :
    (desired.provided zoneId before).holding = (desired.provided zoneId other).holding := by
  unfold provided
  rw [Store.serving?_of_holding same]
  split
  · exact Store.provision_of_holding same _ _
  · exact same

theorem provided_of_serving {serving : Container}
    (serves : before.serving? zoneId desired.category.phase = some serving) :
    desired.provided zoneId before = before := by
  unfold provided
  rw [serves]
  cases desired.body <;> rfl

theorem provided_of_unwanted (unwanted : desired.body = none) :
    desired.provided zoneId before = before := by
  unfold provided
  rw [unwanted]

theorem provided_of_absent {body : DesiredBody} (wanted : desired.body = some body)
    (absent : before.serving? zoneId desired.category.phase = none) :
    desired.provided zoneId before = before.provision zoneId desired.category.phase := by
  unfold provided
  rw [wanted, absent]

private theorem provided_provided (desired : DesiredRule) (zoneId : String) (store : Store) :
    desired.provided zoneId (desired.provided zoneId store) = desired.provided zoneId store := by
  cases wanted : desired.body with
  | none => exact provided_of_unwanted wanted
  | some body =>
    cases serves : store.serving? zoneId desired.category.phase with
    | some serving => rw [provided_of_serving serves, provided_of_serving serves]
    | none =>
      rw [provided_of_absent wanted serves]
      exact provided_of_serving (Store.serving?_provision store serves)

private theorem toList_injective {first second : Option RemoteRule}
    (same : first.toList = second.toList) : first = second := by
  have heads := congrArg List.head? same
  rwa [Option.head?_toList, Option.head?_toList] at heads

private theorem Revision.of_accepted {number : Nat} {rule? : Option RemoteRule}
    (revision : desired.Revision container number outcome rules issued)
    (was : container.rules.filter (·.tag == desired.tag) = rule?.toList)
    (accepted : desired.Accepts rule?) :
    outcome = .unchanged (rule?.map (·.id)) ∧ rules = container.rules ∧ issued = number := by
  cases revision with
  | kept other? was' _ =>
    obtain rfl : other? = rule? := toList_injective (was'.symm.trans was)
    exact ⟨rfl, rfl, rfl⟩
  | created body index wanted was' placed =>
    obtain rfl : rule? = none := Option.toList_eq_nil_iff.mp (was.symm.trans was')
    have unwanted : desired.body = none := accepted
    exact nomatch unwanted.symm.trans wanted
  | patched body old rule wanted was' differs here =>
    obtain rfl : rule? = some old := Option.toList_eq_singleton_iff.mp (was.symm.trans was')
    obtain ⟨body', wanted', matched⟩ := accepted
    obtain rfl := Option.some.inj (wanted.symm.trans wanted')
    exact nomatch differs.symm.trans matched
  | deleted old unwanted was' =>
    obtain rfl : rule? = some old := Option.toList_eq_singleton_iff.mp (was.symm.trans was')
    obtain ⟨body, wanted, -⟩ := accepted
    exact nomatch unwanted.symm.trans wanted

/-- There is one way to revise a container. -/
theorem Revision.unique {outcome' : Outcome} {rules' : List RemoteRule} {issued' number : Nat}
    (first : desired.Revision container number outcome rules issued)
    (second : desired.Revision container number outcome' rules' issued') :
    outcome' = outcome ∧ rules' = rules ∧ issued' = issued := by
  have whole := first
  cases first with
  | kept rule? was accepted => exact second.of_accepted was accepted
  | created body index wanted was placed =>
    cases second with
    | kept rule? was' accepted => exact nomatch (whole.of_accepted was' accepted).1
    | created body' index' wanted' was' placed' =>
      obtain rfl := Option.some.inj (wanted.symm.trans wanted')
      obtain rfl := Except.ok.inj (placed.symm.trans placed')
      exact ⟨rfl, rfl, rfl⟩
    | patched body' old rule wanted' was' differs here => exact nomatch was.symm.trans was'
    | deleted old unwanted was' => exact nomatch was.symm.trans was'
  | patched body old rule wanted was differs here =>
    cases second with
    | kept rule? was' accepted => exact nomatch (whole.of_accepted was' accepted).1
    | created body' index wanted' was' placed => exact nomatch was.symm.trans was'
    | patched body' old' rule' wanted' was' differs' here' =>
      obtain rfl := Option.some.inj (wanted.symm.trans wanted')
      obtain ⟨rfl, -⟩ := List.cons.inj (was.symm.trans was')
      obtain rfl := Option.some.inj (here.symm.trans here')
      exact ⟨rfl, rfl, rfl⟩
    | deleted old' unwanted was' => exact nomatch unwanted.symm.trans wanted
  | deleted old unwanted was =>
    cases second with
    | kept rule? was' accepted => exact nomatch (whole.of_accepted was' accepted).1
    | created body index wanted was' placed => exact nomatch was.symm.trans was'
    | patched body old' rule wanted was' differs here => exact nomatch unwanted.symm.trans wanted
    | deleted old' unwanted' was' =>
      obtain ⟨rfl, -⟩ := List.cons.inj (was.symm.trans was')
      exact ⟨rfl, rfl, rfl⟩

theorem Carried.congr {holding : List Container × Nat}
    (carried : desired.Carried zoneId before outcome holding)
    (same : before.holding = other.holding) : desired.Carried zoneId other outcome holding := by
  have provided : (desired.provided zoneId before).holding =
      (desired.provided zoneId other).holding := provided_of_holding same
  cases carried with
  | idle unwanted absent =>
    rw [Store.serving?_of_holding same] at absent
    rw [same]
    exact .idle unwanted absent
  | revised serving container serves found revision =>
    rw [Store.serving?_of_holding provided] at serves
    rw [Store.container?_of_holding provided] at found
    rw [Store.issued_of_holding provided] at revision
    rw [Store.withRules_of_holding provided]
    exact .revised serving container serves found revision

/-- There is one way to carry an entry out. -/
theorem Carried.unique {outcome' : Outcome} {holding holding' : List Container × Nat}
    (first : desired.Carried zoneId before outcome holding)
    (second : desired.Carried zoneId before outcome' holding') :
    outcome' = outcome ∧ holding' = holding := by
  cases first with
  | idle unwanted absent =>
    cases second with
    | idle _ _ => exact ⟨rfl, rfl⟩
    | revised serving container serves found revision =>
      rw [provided_of_unwanted unwanted, absent] at serves
      nomatch serves
  | revised serving container serves found revision =>
    cases second with
    | idle unwanted absent =>
      rw [provided_of_unwanted unwanted, absent] at serves
      nomatch serves
    | revised serving' container' serves' found' revision' =>
      obtain rfl := Option.some.inj (serves.symm.trans serves')
      obtain rfl := Option.some.inj (found.symm.trans found')
      obtain ⟨rfl, rfl, rfl⟩ := revision.unique revision'
      exact ⟨rfl, rfl⟩

theorem Carried.provided {holding : List Container × Nat}
    (carried : desired.Carried zoneId before outcome holding) :
    desired.Carried zoneId (desired.provided zoneId before) outcome holding := by
  cases carried with
  | idle unwanted absent =>
    rw [provided_of_unwanted unwanted]
    exact .idle unwanted absent
  | revised serving container serves found revision =>
    have again := provided_provided desired zoneId before
    rw [← again] at serves found revision
    have carried := Carried.revised serving container serves found revision
    rwa [again] at carried

private theorem unwanted_of_provided
    (absent : (desired.provided zoneId before).serving? zoneId desired.category.phase = none) :
    desired.body = none := by
  cases wanted : desired.body with
  | none => rfl
  | some body =>
    cases serves : before.serving? zoneId desired.category.phase with
    | some serving =>
      rw [provided_of_serving serves, serves] at absent
      nomatch absent
    | none =>
      rw [provided_of_absent wanted serves, Store.serving?_provision before serves] at absent
      nomatch absent

/-- How a run over one entry ends: the entry is carried out, or the platform is as it was, has the
container that the entry needs, or is carried out without a record of it. -/
def Carries (desired : DesiredRule) (zoneId : String) (before : Store)
    (result : Except Error Outcome) (holding : List Container × Nat) : Prop :=
  match result with
  | .ok outcome => desired.Carried zoneId before outcome holding
  | .error _ => holding = before.holding ∨ holding = (desired.provided zoneId before).holding ∨
      ∃ outcome, desired.Carried zoneId before outcome holding

/-- Where an entry finds its container, and on which platform: the one with the container that it
needs. -/
inductive Finds (desired : DesiredRule) (zoneId : String) (before after : Store) :
    Option String → Prop
  | nowhere (same : after.holding = (desired.provided zoneId before).holding)
      (absent : (desired.provided zoneId before).serving? zoneId desired.category.phase = none) :
      Finds desired zoneId before after none
  | somewhere (serving container : Container)
      (same : after.holding = (desired.provided zoneId before).holding)
      (serves : (desired.provided zoneId before).serving? zoneId desired.category.phase =
        some serving)
      (found : (desired.provided zoneId before).container? zoneId serving.summary.id =
        some container) :
      Finds desired zoneId before after (some serving.summary.id)

theorem Finds.serving {provided after : Store} (given : desired.provided zoneId before = provided)
    (same : after.holding = provided.holding) :
    desired.Finds zoneId before after
      ((provided.serving? zoneId desired.category.phase).map (·.summary.id)) := by
  subst given
  cases serves : (desired.provided zoneId before).serving? zoneId desired.category.phase with
  | none => exact .nowhere same serves
  | some serving =>
    obtain ⟨container, found⟩ := Store.container?_isSome serves
    exact .somewhere serving container same serves found

section Runs

theorem locate_provides :
    Leads runId now (desired.locate zoneId) session fun result after =>
      match result with
      | .ok containerId => desired.Finds zoneId session.platform after.platform containerId
      | .error _ => after.platform.holding = session.platform.holding := by
  unfold locate
  cases wanted : desired.body with
  | none =>
    refine .bind (.findContainer (fun _ _ => rfl) fun _ => .pure ?_)
    rw [Option.map_map]
    exact .serving (provided_of_unwanted wanted) rfl
  | some body =>
    refine .bind (.ensureContainer desired.targets_self ?_ ?_ ?_)
    · intro container serves
      have finds : desired.Finds zoneId session.platform
          (session.logged (.listContainers zoneId)).platform _ :=
        .serving (provided_of_serving serves) rfl
      rw [serves] at finds
      exact .pure finds
    · intro calls after container absent _ _ serves _ provision
      have finds : desired.Finds zoneId session.platform after.platform _ :=
        .serving (provided_of_absent wanted absent) provision
      rw [← Store.serving?_of_holding provision, serves] at finds
      exact .pure finds
    · intro fault calls after _ _ same
      exact same

theorem settle_revises (found : session.platform.container? zoneId containerId = some container) :
    Leads runId now (desired.settle zoneId containerId container.snapshot) session
      fun result after =>
        match result with
        | .ok outcome => ∃ rules issued,
            desired.Revision container session.platform.issued outcome rules issued ∧
            after.platform.holding =
              ((session.platform.withRules zoneId containerId rules).containers, issued)
        | .error _ => after.platform.holding = session.platform.holding := by
  have self : session.platform.holding = ((session.platform.withRules zoneId containerId
      container.rules).containers, session.platform.issued) := by
    rw [Store.withRules_self found]
    rfl
  have found' : ∀ call, (session.logged call).platform.container? zoneId containerId =
      some container := fun _ => found
  unfold settle Snapshot.tagged?
  rcases was : container.rules.filter (·.tag == desired.tag) with _ | ⟨old, _ | ⟨second, more⟩⟩
  -- No rule has the tag.
  · have was' : container.snapshot.rules.filter (·.tag == desired.tag) = [] := was
    rw [was']
    refine .bind (.done ?_)
    cases wanted : desired.body with
    | none => exact .pure ⟨_, _, .kept none was wanted, self⟩
    | some body =>
      obtain ⟨index, placed⟩ := position?_placed desired.category container
      refine .bind (.request (fun _ _ => rfl) fun _ => ?_)
      rw [Store.perform_createRule (found' _) placed]
      exact .pure ⟨_, _, .created body index wanted was placed, rfl⟩
  -- One rule has it.
  · have was' : container.snapshot.rules.filter (·.tag == desired.tag) = [old] := was
    rw [was']
    have member : old ∈ container.rules := List.mem_of_mem_filter (p := (·.tag == desired.tag))
      (by rw [was]; exact List.mem_singleton_self old)
    refine .bind (.done ?_)
    cases wanted : desired.body with
    | none =>
      refine .bind (.request (fun _ _ => rfl) fun _ => ?_)
      rw [Store.perform_deleteRule (found' _) member]
      exact .pure ⟨_, _, .deleted old wanted was, rfl⟩
    | some body =>
      cases matched : body.matches old with
      | true =>
        simp only [matched, if_true]
        exact .pure ⟨_, _, .kept (some old) was ⟨body, wanted, matched⟩, self⟩
      | false =>
        simp only [matched, Bool.false_eq_true, if_false]
        obtain ⟨rule, here⟩ : ∃ rule, container.rules.find? (·.id == old.id) = some rule :=
          Option.isSome_iff_exists.mp
            (List.find?_isSome.mpr ⟨old, member, beq_self_eq_true old.id⟩)
        refine .bind (.request (fun _ _ => rfl) fun _ => ?_)
        rw [Store.perform_patchRule (found' _) here]
        exact .pure ⟨_, _, .patched body old rule wanted was matched here, rfl⟩
  -- Several have it, and nothing is changed.
  · have was' : container.snapshot.rules.filter (·.tag == desired.tag) =
        old :: second :: more := was
    rw [was']
    exact .bind (.done rfl)

theorem reconcile_carries :
    Leads runId now (desired.reconcile zoneId) session fun result after =>
      desired.Carries zoneId session.platform result after.platform.holding := by
  unfold reconcile
  refine .bind (locate_provides.imp fun result middle finds => ?_)
  cases result with
  | error fault => exact .inl finds
  | ok containerId =>
    -- The decision is recorded after the entry is carried out, whether or not that succeeds.
    have recorded : ∀ outcome (decision : Decision) (late : Session Store),
        desired.Carried zoneId session.platform outcome late.platform.holding →
          Leads runId now (do Procedure.record decision; return outcome) late fun result after =>
            desired.Carries zoneId session.platform result after.platform.holding :=
      fun outcome decision late carried => .bind (.record (fun _ _ _ => .pure carried)
        fun _ _ => .inr (.inr ⟨outcome, carried⟩))
    cases finds with
    | nowhere same absent =>
      have unwanted := unwanted_of_provided absent
      rw [provided_of_unwanted unwanted] at same absent
      refine recorded _ _ middle ?_
      rw [same]
      exact .idle unwanted absent
    | somewhere serving container same serves found =>
      have found' := (Store.container?_of_holding same _ _).trans found
      refine .bind (.fetch found' (fun _ _ => .inr (.inl same)) fun _ fetched => ?_)
      refine .bind ((settle_revises fetched).imp fun result late settles => ?_)
      cases result with
      | error fault => exact .inr (.inl (settles.trans same))
      | ok outcome =>
        obtain ⟨rules, issued, revision, holds⟩ := settles
        refine recorded _ _ late ?_
        have revision' : desired.Revision container middle.platform.issued outcome rules issued :=
          revision
        have holds' : late.platform.holding = ((middle.platform.withRules zoneId
            serving.summary.id rules).containers, issued) := holds
        rw [Store.issued_of_holding same] at revision'
        rw [holds', Store.withRules_of_holding same]
        exact .revised serving container serves found revision'

end Runs

end DesiredRule

end EdgePolicy
