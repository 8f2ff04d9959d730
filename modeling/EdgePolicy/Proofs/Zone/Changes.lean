import EdgePolicy.Proofs.Zone.Progress

/-
What the calls do that change a rule of the container that serves a phase.

Each of them is one edit: the new rule stands where its position puts it, a patched rule stands
where it stood, and the others close up behind a deleted one.
-/

set_option autoImplicit false
set_option relaxedAutoImplicit false

namespace EdgePolicy

namespace Store

section

variable {store : Store} {zoneId containerId : String} {container : Container}

theorem perform_fetchContainer (found : store.container? zoneId containerId = some container) :
    perform (.fetchContainer zoneId containerId) store = (.ok container.snapshot, store) := by
  simp only [perform, found]

theorem perform_createRule (found : store.container? zoneId containerId = some container)
    {body : RuleBody} {index : Nat}
    (placed : index? container.rules body.position = .ok index) :
    perform (.createRule zoneId containerId body) store =
      (.ok (ruleOf s!"rule-{store.issued + 1}" body),
        { store with issued := store.issued + 1 }.withRules zoneId containerId
          (container.rules.insertIdx index (ruleOf s!"rule-{store.issued + 1}" body))) := by
  have found' : ({ store with issued := store.issued + 1 } : Store).container? zoneId
      containerId = some container := found
  simp only [perform, found', placed]

theorem perform_createRule_unplaced
    (found : store.container? zoneId containerId = some container) {body : RuleBody}
    {anchor : String}
    (unplaced : index? container.rules body.position = .error anchor) :
    ∃ fault, perform (.createRule zoneId containerId body) store =
      (.error fault, { store with issued := store.issued + 1 }) := by
  have found' : ({ store with issued := store.issued + 1 } : Store).container? zoneId
      containerId = some container := found
  exact ⟨_, by simp only [perform, found', unplaced]; rfl⟩

theorem perform_patchRule (found : store.container? zoneId containerId = some container)
    {ruleId : String} {rule : RemoteRule}
    (here : container.rules.find? (·.id == ruleId) = some rule) (body : RuleBody) :
    perform (.patchRule zoneId containerId ruleId body) store =
      (.ok (patched rule body), store.withRules zoneId containerId
        (container.rules.set (container.rules.findIdx (·.id == ruleId)) (patched rule body))) := by
  simp only [perform, found, here]

theorem perform_deleteRule (found : store.container? zoneId containerId = some container)
    {rule : RemoteRule} (member : rule ∈ container.rules) :
    perform (.deleteRule zoneId containerId rule.id) store =
      (.ok (), store.withRules zoneId containerId
        (container.rules.filter (·.id != rule.id))) := by
  have shorter : (container.rules.filter (·.id != rule.id)).length ≠ container.rules.length := by
    intro same
    have kept := List.length_filter_eq_length_iff.mp same rule member
    simp at kept
  simp only [perform, found, shorter, if_false]

end

section

variable {store : Store} {container : Container} {front back : List RemoteRule}
  {old : RemoteRule}

private theorem only_of_nodup (ids : (container.rules.map (·.id)).Nodup)
    (shape : container.rules = front ++ old :: back) :
    (∀ other ∈ front, (other.id == old.id) = false) ∧
      ∀ other ∈ back, (other.id == old.id) = false := by
  rw [shape, List.map_append, List.map_cons, List.nodup_middle, List.nodup_cons] at ids
  obtain ⟨absent, -⟩ := ids
  simp only [List.mem_append, List.mem_map, not_or, not_exists, not_and] at absent
  exact ⟨fun other inFront => beq_false_of_ne (absent.1 other inFront),
    fun other inBack => beq_false_of_ne (absent.2 other inBack)⟩

/-- The rule found under the identifier of a rule is that rule, and it is replaced where it
stands. -/
theorem replace_of_nodup (ids : (container.rules.map (·.id)).Nodup)
    (shape : container.rules = front ++ old :: back) (new : RemoteRule) :
    container.rules.find? (·.id == old.id) = some old ∧
      container.rules.set (container.rules.findIdx (·.id == old.id)) new =
        front ++ new :: back := by
  have others := (only_of_nodup ids shape).1
  constructor
  · refine List.find?_eq_some_iff_append.mpr
      ⟨beq_self_eq_true _, front, back, shape, fun other inFront => ?_⟩
    simp [others other inFront]
  · rw [shape]
    exact set_findIdx _ others (beq_self_eq_true _)

theorem drop_of_nodup (ids : (container.rules.map (·.id)).Nodup)
    (shape : container.rules = front ++ old :: back) :
    container.rules.filter (·.id != old.id) = front ++ back := by
  obtain ⟨inFront, inBack⟩ := only_of_nodup ids shape
  rw [shape, List.filter_append, List.filter_cons_of_neg (by simp),
    List.filter_eq_self.mpr fun other member => by simp [bne, inFront other member],
    List.filter_eq_self.mpr fun other member => by simp [bne, inBack other member]]

end

end Store

namespace Session.Leads

variable {runId : RunId} {now : Timestamp} {session : Session Store} {zoneId : String}
  {phase : Phase} {targets : Phase → String → Prop} {container : Container}

theorem fetch {containerId : String} {post : Except Error Snapshot → Session Store → Prop}
    (found : session.platform.container? zoneId containerId = some container)
    (refused : ∀ fault, .fetchContainer ∈ session.platform.failing →
      post (.error fault) (session.logged (.fetchContainer zoneId containerId)))
    (fetched : .fetchContainer ∉ session.platform.failing →
      (session.logged (.fetchContainer zoneId containerId)).platform.container? zoneId
        containerId = some container →
      post (.ok container.snapshot) (session.logged (.fetchContainer zoneId containerId))) :
    Leads runId now (Procedure.request (.fetchContainer zoneId containerId)) session post := by
  have found' : (session.logged (.fetchContainer zoneId containerId)).platform.container? zoneId
      containerId = some container := found
  refine .request refused fun working => ?_
  rw [Store.perform_fetchContainer found']
  exact fetched working found'

theorem fetchContainer (wellFormed : session.platform.WellFormed)
    (serves : session.platform.serving? zoneId phase = some container)
    {post : Except Error Snapshot → Session Store → Prop}
    (refused : ∀ fault, .fetchContainer ∈ session.platform.failing →
      post (.error fault) (session.logged (.fetchContainer zoneId container.summary.id)))
    (answered : post (.ok container.snapshot)
      (session.logged (.fetchContainer zoneId container.summary.id))) :
    Leads runId now (Procedure.request (.fetchContainer zoneId container.summary.id)) session
      post :=
  .fetch (Store.container?_of_serving wellFormed serves) refused fun _ _ => answered

theorem rewritten (wellFormed : session.platform.WellFormed)
    (serves : session.platform.serving? zoneId phase = some container) (call : Call) {issued : Nat}
    {rules : List RemoteRule}
    (edit : RuleEdit (targets phase) session.platform.issued issued container.rules rules)
    {platform : Store} (became : platform = Store.withRules
      { (session.logged call).platform with issued } zoneId container.summary.id rules) :
    Advance zoneId targets [call] session { session.logged call with platform } ∧
      platform.serving? zoneId phase = some { container with rules } := by
  have containers : platform.containers =
      (session.platform.withRules zoneId container.summary.id rules).containers := by
    rw [became]
    rfl
  obtain rfl : platform.issued = issued := by
    rw [became]
    rfl
  obtain ⟨step, serves'⟩ := Store.Edit.of_withRules wellFormed serves edit containers
  refine ⟨⟨.single step, ?_, ?_, rfl, ?_⟩, serves'⟩
  all_goals
    rw [became]
    rfl

theorem createRule (wellFormed : session.platform.WellFormed)
    (serves : session.platform.serving? zoneId phase = some container) {body : RuleBody}
    (target : targets phase body.tag) {index : Nat}
    (placed : Store.index? container.rules body.position = .ok index)
    {post : Except Error RemoteRule → Session Store → Prop}
    (refused : ∀ fault, .createRule ∈ session.platform.failing →
      post (.error fault) (session.logged (.createRule zoneId container.summary.id body)))
    (answered : ∀ after front back, container.rules = front ++ back →
      Advance zoneId targets [.createRule zoneId container.summary.id body] session after →
      after.platform.serving? zoneId phase = some { container with
        rules := front ++ Store.ruleOf s!"rule-{session.platform.issued + 1}" body :: back } →
      post (.ok (Store.ruleOf s!"rule-{session.platform.issued + 1}" body)) after) :
    Leads runId now (Procedure.request (.createRule zoneId container.summary.id body)) session
      post := by
  refine .request refused fun _ => ?_
  rw [Store.perform_createRule
      (Store.container?_of_serving (wellFormed_logged wellFormed _) serves) placed,
    insertIdx_eq_append _ (Store.index?_le placed)]
  have shape := (List.take_append_drop index container.rules).symm
  have edit := RuleEdit.insert (container.rules.take index) (container.rules.drop index)
    (Store.ruleOf s!"rule-{session.platform.issued + 1}" body) target rfl
  rw [← shape] at edit
  obtain ⟨advance, serves'⟩ := rewritten wellFormed serves _ edit rfl
  exact answered _ _ _ shape advance serves'

theorem patchRule (wellFormed : session.platform.WellFormed)
    (serves : session.platform.serving? zoneId phase = some container)
    {front back : List RemoteRule} {old : RemoteRule}
    (shape : container.rules = front ++ old :: back) {body : RuleBody}
    (target : targets phase old.tag) (target' : targets phase body.tag)
    {post : Except Error RemoteRule → Session Store → Prop}
    (refused : ∀ fault, .patchRule ∈ session.platform.failing →
      post (.error fault) (session.logged (.patchRule zoneId container.summary.id old.id body)))
    (answered : ∀ after,
      Advance zoneId targets [.patchRule zoneId container.summary.id old.id body] session after →
      after.platform.serving? zoneId phase = some { container with
        rules := front ++ Store.patched old body :: back } →
      post (.ok (Store.patched old body)) after) :
    Leads runId now (Procedure.request (.patchRule zoneId container.summary.id old.id body))
      session post := by
  refine .request refused fun _ => ?_
  have ids := wellFormed.ruleIds container (Store.serving?_eq_some serves).1
  obtain ⟨here, written⟩ := Store.replace_of_nodup ids shape (Store.patched old body)
  rw [Store.perform_patchRule
    (Store.container?_of_serving (wellFormed_logged wellFormed _) serves) here, written]
  have edit : RuleEdit (targets phase) session.platform.issued session.platform.issued
      container.rules (front ++ Store.patched old body :: back) :=
    shape ▸ .replace front back old _ target target' rfl
  obtain ⟨advance, serves'⟩ := rewritten wellFormed serves _ edit rfl
  exact answered _ advance serves'

theorem deleteRule (wellFormed : session.platform.WellFormed)
    (serves : session.platform.serving? zoneId phase = some container)
    {front back : List RemoteRule} {old : RemoteRule}
    (shape : container.rules = front ++ old :: back) (target : targets phase old.tag)
    {post : Except Error Unit → Session Store → Prop}
    (refused : ∀ fault, .deleteRule ∈ session.platform.failing →
      post (.error fault) (session.logged (.deleteRule zoneId container.summary.id old.id)))
    (answered : ∀ after,
      Advance zoneId targets [.deleteRule zoneId container.summary.id old.id] session after →
      after.platform.serving? zoneId phase = some { container with rules := front ++ back } →
      post (.ok ()) after) :
    Leads runId now (Procedure.request (.deleteRule zoneId container.summary.id old.id)) session
      post := by
  refine .request refused fun _ => ?_
  have ids := wellFormed.ruleIds container (Store.serving?_eq_some serves).1
  have member : old ∈ container.rules := by simp [shape]
  rw [Store.perform_deleteRule
    (Store.container?_of_serving (wellFormed_logged wellFormed _) serves) member,
    Store.drop_of_nodup ids shape]
  have edit : RuleEdit (targets phase) session.platform.issued session.platform.issued
      container.rules (front ++ back) :=
    shape ▸ .remove front back old target
  obtain ⟨advance, serves'⟩ := rewritten wellFormed serves _ edit rfl
  exact answered _ advance serves'

end Session.Leads

end EdgePolicy
