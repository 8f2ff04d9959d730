import EdgePolicy.Proofs.Reconcile.Entry

/-
How reconciling one entry ends.

The procedure is followed along its text: the container is located, fetched and settled, and the
decision is recorded.  `Leads.reconcile` is the only fact about the procedure that is used later.
-/

set_option autoImplicit false
set_option relaxedAutoImplicit false

namespace EdgePolicy

open Session (Advance Leads wellFormed_logged)

theorem position?_placed (category : Category) (container : Container) :
    ∃ index, Store.index? container.rules (category.position? container.snapshot) = .ok index := by
  have known : ∀ rule ∈ container.snapshot.rules,
      ∃ index, container.rules.findIdx? (·.id == rule.id) = some index := fun rule member => by
    refine Option.isSome_iff_exists.mp (List.findIdx?_isSome.trans ?_)
    exact List.any_eq_true.mpr ⟨rule, member, beq_self_eq_true _⟩
  unfold Category.position?
  cases category.anchor? with
  | none => exact ⟨_, rfl⟩
  | some anchor =>
    cases anchor with
    | beforeFirst other =>
      show ∃ index, Store.index? _ (Option.map _ (container.snapshot.ownedBy other).head?) = _
      cases first : (container.snapshot.ownedBy other).head? with
      | none => exact ⟨_, rfl⟩
      | some rule =>
        obtain ⟨index, found⟩ := known rule
          (List.mem_of_mem_filter (List.mem_of_head? first))
        exact ⟨index, by simp only [Option.map_some, Store.index?, found]⟩
    | afterLast other =>
      show ∃ index, Store.index? _ (Option.map _ (container.snapshot.ownedBy other).getLast?) = _
      cases last : (container.snapshot.ownedBy other).getLast? with
      | none => exact ⟨_, rfl⟩
      | some rule =>
        obtain ⟨index, found⟩ := known rule
          (List.mem_of_mem_filter (List.mem_of_getLast? last))
        exact ⟨index + 1, by simp only [Option.map_some, Store.index?, found]⟩

theorem filter_eq_singleton {α : Type} {p : α → Bool} {items : List α} {item : α}
    (only : items.filter p = [item]) :
    ∃ front back, items = front ++ item :: back ∧ p item = true ∧ front.filter p = [] ∧
      back.filter p = [] := by
  obtain ⟨front, back, shape, others, here, rest⟩ := List.filter_eq_cons_iff.mp only
  exact ⟨front, back, shape, here, List.filter_eq_nil_iff.mpr others, rest⟩

theorem filter_middle {α : Type} {p : α → Bool} {front back : List α} {item : α}
    (inFront : front.filter p = []) (here : p item = true) (inBack : back.filter p = []) :
    (front ++ item :: back).filter p = [item] := by
  rw [List.filter_append, inFront, List.filter_cons_of_pos here, inBack, List.nil_append]

namespace DesiredRule

variable {desired : DesiredRule} {zoneId : String} {session : Session Store}
  {runId : RunId} {now : Timestamp}

theorem targets_self (desired : DesiredRule) :
    desired.targets desired.category.phase desired.tag :=
  ⟨rfl, rfl⟩

theorem targets_of_tag {tag : String} (same : tag = desired.tag) :
    desired.targets desired.category.phase tag :=
  ⟨rfl, same⟩

private theorem hindered_of_failing {operation : Operation}
    (failing : operation ∈ session.platform.failing) : desired.Hindered zoneId session :=
  .inl (List.ne_nil_of_mem failing)

private theorem settle_leads (wellFormed : session.platform.WellFormed) {container : Container}
    (serves : session.platform.serving? zoneId desired.category.phase = some container) :
    Leads runId now (desired.settle zoneId container.summary.id container.snapshot) session
      (desired.Concludes zoneId session) := by
  have was : desired.held zoneId session.platform =
      container.rules.filter (·.tag == desired.tag) := Store.tagged_of_serving serves _
  unfold settle Snapshot.tagged?
  rcases found : container.rules.filter (·.tag == desired.tag) with _ | ⟨old, _ | ⟨second, more⟩⟩
  -- No rule has the tag.
  · have found' : container.snapshot.rules.filter (·.tag == desired.tag) = [] := found
    rw [found']
    rw [found] at was
    refine .bind (.done ?_)
    cases wanted : desired.body with
    | none =>
      exact .pure ⟨_, .refl session, .unchanged none rfl was wanted, rfl, by simp⟩
    | some body =>
      obtain ⟨index, placed⟩ := position?_placed desired.category container
      refine .bind (.createRule wellFormed serves desired.targets_self placed
        (fun fault failing => ⟨_, .logged session _, hindered_of_failing failing⟩)
        fun after front back shape advance serves' => .pure ⟨_, advance, ?_⟩)
      rw [shape, List.filter_append, List.append_eq_nil_iff] at found
      refine ⟨.created body _ _ wanted was ?_, rfl, fun _ => rfl⟩
      rw [held, Store.tagged_of_serving serves']
      exact filter_middle found.1 (beq_self_eq_true _) found.2
  -- One rule has it.
  · have found' : container.snapshot.rules.filter (·.tag == desired.tag) = [old] := found
    rw [found']
    rw [found] at was
    obtain ⟨front, back, shape, tagged, inFront, inBack⟩ := filter_eq_singleton found
    have tag : old.tag = desired.tag := by simpa using tagged
    refine .bind (.done ?_)
    cases wanted : desired.body with
    | none =>
      refine .bind (.deleteRule wellFormed serves shape (targets_of_tag tag)
        (fun fault failing => ⟨_, .logged session _, hindered_of_failing failing⟩)
        fun after advance serves' => .pure ⟨_, advance, ?_⟩)
      refine ⟨.deleted old wanted was ?_, rfl, fun named => by simp [Call.operation] at named⟩
      rw [held, Store.tagged_of_serving serves', List.filter_append, inFront, inBack]
      rfl
    | some body =>
      cases matched : body.matches old with
      | true =>
        simp only [matched, if_true]
        exact .pure ⟨_, .refl session, .unchanged (some old) rfl was ⟨body, wanted, matched⟩,
          rfl, by simp⟩
      | false =>
        simp only [matched, Bool.false_eq_true, if_false]
        refine .bind (.patchRule wellFormed serves shape (targets_of_tag tag)
          desired.targets_self
          (fun fault failing => ⟨_, .logged session _, hindered_of_failing failing⟩)
          fun after advance serves' => .pure ⟨_, advance, ?_⟩)
        refine ⟨.patched body old wanted was matched ?_, rfl,
          fun named => by simp [Call.operation] at named⟩
        rw [held, Store.tagged_of_serving serves']
        exact filter_middle inFront (beq_self_eq_true _) inBack
  -- Several have it, and nothing is changed.
  · have found' : container.snapshot.rules.filter (·.tag == desired.tag) =
        old :: second :: more := found
    rw [found']
    rw [found] at was
    have many : 1 < (desired.held zoneId session.platform).length := by simp [was]
    exact .bind (.done ⟨_, .refl session, .inr (.inr many)⟩)

/-- A session in which the container of an entry was found, or created because the entry needs one
and there was none. -/
structure Located (desired : DesiredRule) (zoneId : String) (session : Session Store)
    (calls : List Call) (after : Session Store) : Prop where
  advance : Advance zoneId desired.targets calls session after
  reads : Call.changes calls = []
  kept : desired.held zoneId after.platform = desired.held zoneId session.platform
  needed : after.platform.containers = session.platform.containers ∧
      .createContainer ∉ calls.map (·.operation) ∨
    desired.body ≠ none ∧ desired.held zoneId session.platform = []

theorem Located.logged (session : Session Store) (call : Call)
    (reads : call.operation.changesRule = false) (other : call.operation ≠ .createContainer) :
    desired.Located zoneId session [call] (session.logged call) := by
  refine ⟨.logged session call, ?_, rfl, .inl ⟨rfl, ?_⟩⟩
  · simp [Call.changes, reads]
  · simpa using Ne.symm other

theorem Located.trans {calls calls' : List Call} {middle after : Session Store}
    (first : desired.Located zoneId session calls middle)
    (second : desired.Located zoneId middle calls' after)
    (still : after.platform.containers = middle.platform.containers)
    (reads : .createContainer ∉ calls'.map (·.operation)) :
    desired.Located zoneId session (calls ++ calls') after := by
  refine ⟨first.advance.trans second.advance, ?_, second.kept.trans first.kept, ?_⟩
  · have reads := first.reads
    have reads' := second.reads
    unfold Call.changes at reads reads' ⊢
    rw [List.map_append, List.filter_append, reads, reads', List.append_nil]
  · rcases first.needed with ⟨containers, calls⟩ | needed
    · left
      rw [List.map_append, List.mem_append]
      exact ⟨still.trans containers, not_or.mpr ⟨calls, reads⟩⟩
    · exact .inr needed

theorem Located.entry {calls calls' : List Call} {middle : Session Store} {after : Store}
    {outcome : Outcome} (located : desired.Located zoneId session calls middle)
    (entry : desired.Entry zoneId calls' middle.platform after outcome) :
    desired.Entry zoneId (calls ++ calls') session.platform after outcome := by
  obtain ⟨effect, changes, provisions⟩ := entry
  have changes' : Call.changes (calls ++ calls') = outcome.operation?.toList := by
    have reads := located.reads
    unfold Call.changes at reads changes ⊢
    rw [List.map_append, List.filter_append, reads, List.nil_append, changes]
  have kept := located.kept
  -- A container was only created when no rule has the tag and one is to be created.
  have created : outcome.operation? ≠ some .createRule →
      middle.platform.containers = session.platform.containers ∧
        .createContainer ∉ calls.map (·.operation) := by
    intro other
    rcases located.needed with found | ⟨wanted, nothing⟩
    · exact found
    · rw [← kept] at nothing
      cases effect with
      | unchanged rule? containers was accepted =>
        rw [was] at nothing
        cases rule? with
        | none => exact absurd accepted wanted
        | some rule => nomatch nothing
      | created body id position wanted' was becomes => exact absurd rfl other
      | patched body old wanted' was differs becomes =>
        rw [was] at nothing
        nomatch nothing
      | deleted old unwanted was becomes => exact absurd unwanted wanted
  refine ⟨?_, changes', fun named => ?_⟩
  · cases effect with
    | unchanged rule? containers was accepted =>
      exact .unchanged rule? (containers.trans (created nofun).1) (kept ▸ was) accepted
    | created body id position wanted was becomes =>
      exact .created body id position wanted (kept ▸ was) becomes
    | patched body old wanted was differs becomes =>
      exact .patched body old wanted (kept ▸ was) differs becomes
    | deleted old unwanted was becomes => exact .deleted old unwanted (kept ▸ was) becomes
  · by_contra other
    rw [List.map_append, List.mem_append] at named
    rcases named with early | late
    · exact (created other).2 early
    · exact other (provisions late)

theorem locate_leads :
    Leads runId now (desired.locate zoneId) session fun result after =>
      match result with
      | .ok containerId => ∃ calls, desired.Located zoneId session calls after ∧
          containerId = (after.platform.serving? zoneId desired.category.phase).map (·.summary.id) ∧
          (containerId = none → desired.body = none)
      | .error _ => ∃ calls, Advance zoneId desired.targets calls session after ∧
          desired.Hindered zoneId session := by
  unfold locate
  have listed : desired.Located zoneId session _ (session.logged (.listContainers zoneId)) :=
    .logged session (.listContainers zoneId) rfl nofun
  cases wanted : desired.body with
  | none =>
    refine .bind (.findContainer (fun fault failing => ⟨_, listed.advance,
      hindered_of_failing failing⟩) fun _ => .pure ⟨_, listed, ?_, fun _ => rfl⟩)
    rw [Option.map_map]
    rfl
  | some body =>
    refine .bind (.ensureContainer desired.targets_self ?_ ?_ ?_)
    · intro container serves
      have serves' : (session.logged (.listContainers zoneId)).platform.serving? zoneId
          desired.category.phase = some container := serves
      exact .pure ⟨_, listed, by rw [serves']; rfl, nofun⟩
    · intro calls after container absent advance reads serves empty _
      refine .pure ⟨calls, ⟨advance, ?_, ?_, .inr ⟨by simp [wanted], ?_⟩⟩, by rw [serves]; rfl,
        nofun⟩
      · unfold Call.changes
        rw [List.filter_eq_nil_iff, List.forall_mem_map]
        simpa using reads
      · unfold held
        rw [Store.tagged_of_serving serves, Store.tagged_of_none absent, empty]
        rfl
      · exact Store.tagged_of_none absent _
    · exact fun fault calls after failing advance _ => ⟨_, advance, .inl failing⟩

theorem Located.hindered {calls : List Call} {middle : Session Store}
    (located : desired.Located zoneId session calls middle)
    (hindered : desired.Hindered zoneId middle) : desired.Hindered zoneId session := by
  unfold Hindered at hindered ⊢
  rwa [located.advance.failing, located.advance.available, located.kept] at hindered

private theorem record_leads {calls : List Call} {middle : Session Store} {outcome : Outcome}
    (advance : Advance zoneId desired.targets calls session middle)
    (entry : desired.Entry zoneId calls session.platform middle.platform outcome)
    (decision : Decision) :
    Leads runId now
      (do Procedure.record decision; return outcome) middle (desired.Concludes zoneId session) := by
  refine .bind (.record (fun logbook was still => .pure ⟨calls, ?_, entry⟩)
    fun fault lost => ⟨calls, advance, .inr (.inl (advance.available ▸ lost))⟩)
  have noted := advance.trans (.recorded middle was still)
  rwa [List.append_nil] at noted

theorem reconcile_leads (wellFormed : session.platform.WellFormed) :
    Leads runId now (desired.reconcile zoneId) session (desired.Concludes zoneId session) := by
  unfold reconcile
  refine .bind (locate_leads.imp fun result middle ends => ?_)
  cases result with
  | error fault =>
    obtain ⟨calls, advance, hindered⟩ := ends
    exact ⟨calls, advance, hindered⟩
  | ok containerId =>
    obtain ⟨calls, located, here, unwanted⟩ := ends
    cases serves : middle.platform.serving? zoneId desired.category.phase with
    | none =>
      rw [serves] at here
      subst here
      have nothing : desired.held zoneId middle.platform = [] := Store.tagged_of_none serves _
      have entry : desired.Entry zoneId [] middle.platform middle.platform (.unchanged none) :=
        ⟨.unchanged none rfl nothing (unwanted rfl), rfl, by simp⟩
      refine record_leads located.advance ?_ _
      have whole := located.entry entry
      rwa [List.append_nil] at whole
    | some container =>
      rw [serves] at here
      subst here
      have wellFormed' := located.advance.edits.wellFormed wellFormed
      have fetched := located.trans
        (.logged middle (.fetchContainer zoneId container.summary.id) rfl nofun) rfl
        (by simp [Call.operation])
      refine .bind (.fetchContainer wellFormed' serves
        (fun fault failing =>
          ⟨_, fetched.advance, located.hindered (hindered_of_failing failing)⟩) ?_)
      refine .bind ((settle_leads (wellFormed_logged wellFormed' _) serves).imp
        fun result after settles => ?_)
      obtain ⟨calls', advance, ends⟩ := settles
      cases result with
      | error fault => exact ⟨_, fetched.advance.trans advance, fetched.hindered ends⟩
      | ok outcome => exact record_leads (fetched.advance.trans advance) (fetched.entry ends) _

end DesiredRule

end EdgePolicy
