import EdgePolicy.Proofs.Zone.Frame
import EdgePolicy.Proofs.Zone.Run

/-
How far a run has come, and how a container is found or created.

`Advance` compares two sessions of one run: which calls lie between them, and that nothing but
edits of some targets was made.  A container that is looked for is the serving one; one that is
created serves its phase from then on, even when its creation is reported as failed.
-/

set_option autoImplicit false
set_option relaxedAutoImplicit false

namespace EdgePolicy

namespace Store

private theorem perform_createContainer (store : Store) (zoneId : String) (phase : Phase) :
    (perform (.createContainer zoneId phase) store).2 = store.provision zoneId phase ∧
      ((perform (.createContainer zoneId phase) store).1 =
          .ok (provisioned zoneId s!"ruleset-{store.issued + 1}" phase "zone").summary ∨
        ∃ fault, (perform (.createContainer zoneId phase) store).1 = .error fault) := by
  cases race : store.losesRace with
  | true => simp [perform, provision, race]
  | false => simp [perform, provision, addContainer, race]

theorem serving?_provision (store : Store) {zoneId : String} {phase : Phase}
    (absent : store.serving? zoneId phase = none) :
    (store.provision zoneId phase).serving? zoneId phase =
      some (provisioned zoneId s!"ruleset-{store.issued + 1}" phase "zone") := by
  have serves : (provisioned zoneId s!"ruleset-{store.issued + 1}" phase "zone").servesIn
      zoneId phase = true := by
    simp [provisioned, Container.servesIn, ContainerSummary.serves]
  unfold Store.serving? at absent ⊢
  show (store.containers ++ [_]).find? _ = _
  rw [List.find?_append, absent, Option.none_or, List.find?_cons_of_pos serves]

end Store

namespace Session

theorem wellFormed_logged {session : Session Store} (wellFormed : session.platform.WellFormed)
    (call : Call) : (session.logged call).platform.WellFormed :=
  wellFormed.of_containers_eq rfl (Nat.le_refl _)

/-- A later session of a run, with the calls in between. -/
structure Advance (zoneId : String) (targets : Phase → String → Prop) (calls : List Call)
    (before after : Session Store) : Prop where
  edits : Store.Edits zoneId targets before.platform after.platform
  zones : after.platform.zones = before.platform.zones
  failing : after.platform.failing = before.platform.failing
  available : after.logbook.available = before.logbook.available
  calls : after.platform.calls = before.platform.calls ++ calls

namespace Advance

variable {zoneId : String} {targets : Phase → String → Prop} {calls calls' : List Call}
  {before middle after : Session Store}

theorem refl (session : Session Store) : Advance zoneId targets [] session session :=
  ⟨.refl, rfl, rfl, rfl, (List.append_nil _).symm⟩

theorem trans (first : Advance zoneId targets calls before middle)
    (second : Advance zoneId targets calls' middle after) :
    Advance zoneId targets (calls ++ calls') before after := by
  refine ⟨first.edits.trans second.edits, second.zones.trans first.zones,
    second.failing.trans first.failing, second.available.trans first.available, ?_⟩
  rw [second.calls, first.calls, List.append_assoc]

theorem mono {wider : Phase → String → Prop} (advance : Advance zoneId targets calls before after)
    (included : ∀ phase tag, targets phase tag → wider phase tag) :
    Advance zoneId wider calls before after :=
  { advance with edits := advance.edits.mono included }

theorem logged (session : Session Store) (call : Call) :
    Advance zoneId targets [call] session (session.logged call) :=
  ⟨.single (.keep rfl (Nat.le_refl _)), rfl, rfl, rfl, rfl⟩

theorem provisioned {session : Session Store} {phase : Phase} {tag : String}
    (target : targets phase tag) (absent : session.platform.serving? zoneId phase = none) :
    Advance zoneId targets [] session
      { session with platform := session.platform.provision zoneId phase } :=
  ⟨.single (.provision phase tag target absent rfl rfl), rfl, rfl, rfl, (List.append_nil _).symm⟩

theorem recorded (session : Session Store) {logbook : Logbook}
    (was : session.logbook.available = true) (available : logbook.available = true) :
    Advance zoneId targets [] session { session with logbook } :=
  ⟨.refl, rfl, rfl, available.trans was.symm, (List.append_nil _).symm⟩

end Advance

namespace Leads

variable {runId : RunId} {now : Timestamp} {session : Session Store}

theorem findContainer {zoneId : String} {phase : Phase}
    {post : Except Error (Option ContainerSummary) → Session Store → Prop}
    (refused : ∀ fault, .listContainers ∈ session.platform.failing →
      post (.error fault) (session.logged (.listContainers zoneId)))
    (answered : .listContainers ∉ session.platform.failing →
      post (.ok ((session.platform.serving? zoneId phase).map (·.summary)))
        (session.logged (.listContainers zoneId))) :
    Leads runId now (Procedure.findContainer zoneId phase) session post := by
  refine .bind (.request refused fun working => .pure ?_)
  have selected := session.platform.select?_summaries zoneId phase
  rw [← selected] at answered
  exact answered working

theorem resolveZone {zone : String} {post : Except Error String → Session Store → Prop}
    (refused : ∀ fault, .resolveZone ∈ session.platform.failing ∨
        session.platform.zones.lookup zone = none →
      post (.error fault) (session.logged (.resolveZone zone)))
    (answered : ∀ zoneId, session.platform.zones.lookup zone = some zoneId →
      post (.ok zoneId) (session.logged (.resolveZone zone))) :
    Leads runId now (Procedure.request (.resolveZone zone)) session post := by
  refine .request (fun fault failing => refused fault (.inl failing)) fun _ => ?_
  cases found : session.platform.zones.lookup zone with
  | some zoneId =>
    have found' : (session.logged (.resolveZone zone)).platform.zones.lookup zone = some zoneId :=
      found
    simp only [Store.perform, found']
    exact answered zoneId found
  | none =>
    have found' : (session.logged (.resolveZone zone)).platform.zones.lookup zone = none := found
    simp only [Store.perform, found']
    exact refused _ (.inr found)

theorem createContainer {zoneId : String} {phase : Phase}
    {post : Except Error (Except Error ContainerSummary) → Session Store → Prop}
    (refused : ∀ fault, .createContainer ∈ session.platform.failing →
      post (.ok (.error fault)) (session.logged (.createContainer zoneId phase)))
    (answered : ∀ result, (result = .ok (Store.provisioned zoneId
        s!"ruleset-{session.platform.issued + 1}" phase "zone").summary ∨
          ∃ fault, result = .error fault) →
      post (.ok result) { session with
        platform := (session.logged (.createContainer zoneId phase)).platform.provision
          zoneId phase }) :
    Leads runId now (Procedure.attempt (.createContainer zoneId phase)) session post := by
  refine .attempt refused fun _ => ?_
  obtain ⟨platform, reply⟩ := Store.perform_createContainer
    (session.logged (.createContainer zoneId phase)).platform zoneId phase
  rw [platform]
  exact answered _ reply

theorem ensureContainer {zoneId tag : String} {phase : Phase} {targets : Phase → String → Prop}
    (target : targets phase tag) {post : Except Error String → Session Store → Prop}
    (found : ∀ container, session.platform.serving? zoneId phase = some container →
      post (.ok container.summary.id) (session.logged (.listContainers zoneId)))
    (created : ∀ calls after container, session.platform.serving? zoneId phase = none →
      Advance zoneId targets calls session after →
      (∀ call ∈ calls, call.operation.changesRule = false) →
      after.platform.serving? zoneId phase = some container → container.rules = [] →
      after.platform.holding = (session.platform.provision zoneId phase).holding →
      post (.ok container.summary.id) after)
    (failed : ∀ fault calls after, session.platform.failing ≠ [] →
      Advance zoneId targets calls session after →
      after.platform.holding = session.platform.holding → post (.error fault) after) :
    Leads runId now (Procedure.ensureContainer zoneId phase) session post := by
  have listed : Advance zoneId targets _ session (session.logged (.listContainers zoneId)) :=
    .logged session (.listContainers zoneId)
  refine .bind (.findContainer
    (fun fault failing => failed fault _ _ (List.ne_nil_of_mem failing) listed rfl)
    fun working => ?_)
  cases serves : session.platform.serving? zoneId phase with
  | some container => exact .pure (found container serves)
  | none =>
    have asked := listed.trans (.logged _ (.createContainer zoneId phase))
    refine .bind (.createContainer (fun fault failing => ?_) fun result reply => ?_)
    · have again := asked.trans (.logged _ (.listContainers zoneId))
      refine .bind (.findContainer
        (fun fault _ => failed fault _ _ (List.ne_nil_of_mem failing) again rfl) fun _ => ?_)
      have still : ((session.logged (.listContainers zoneId)).logged
          (.createContainer zoneId phase)).platform.serving? zoneId phase = none := serves
      rw [still]
      exact .done (failed _ _ _ (List.ne_nil_of_mem failing) again rfl)
    · have made := asked.trans (.provisioned target serves)
      have serves' := Store.serving?_provision ((session.logged
        (.listContainers zoneId)).logged (.createContainer zoneId phase)).platform serves
      rcases reply with rfl | ⟨fault, rfl⟩
      · exact .pure (created _ _ _ serves made (by simp [Call.operation, Operation.changesRule])
          serves' rfl rfl)
      -- The creation was reported as failed, but the container is there, and it can be listed.
      · have again := made.trans (.logged _ (.listContainers zoneId))
        refine .bind (.findContainer (fun fault failing => absurd failing working) fun _ => ?_)
        rw [serves']
        exact .pure (created _ _ _ serves again (by simp [Call.operation, Operation.changesRule])
          serves' rfl rfl)

end Leads

end Session

end EdgePolicy
