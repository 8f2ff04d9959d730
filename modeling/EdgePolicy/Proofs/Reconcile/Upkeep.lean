import EdgePolicy.Proofs.Reconcile.Replay

/-
Each phase of a zone keeps to one container, and managed containers are left alone.

A container is provisioned only for a phase that none serves, and the container that is revised is
the serving one, since its identifier is that of no other.  So every run over an entry, however it
ends, keeps up a platform on which one container at most serves each phase (`Store.Upkeep`), and so
does every session (`Session.Works.upkeep`).  Nothing is asked of the identifiers of rules.
-/

set_option autoImplicit false
set_option relaxedAutoImplicit false

namespace EdgePolicy

open Session (onStore)

/-- A container of the platform's own, which is never selected for a phase. -/
def Container.isManaged (container : Container) : Bool :=
  container.summary.kind != "" && container.summary.kind != "zone"

private theorem Container.isManaged_of_servesIn {zoneId : String} {phase : Phase}
    {container : Container}
    (serves : container.servesIn zoneId phase = true) : container.isManaged = false := by
  simp only [servesIn, ContainerSummary.serves, Bool.and_eq_true, Bool.or_eq_true,
    beq_iff_eq] at serves
  rcases serves.2.2 with kind | kind <;> simp [isManaged, kind]

namespace Store

/-- In each zone one container at most serves each phase. -/
def Sole (store : Store) : Prop :=
  ∀ zoneId phase, (store.containers.filter (Container.servesIn zoneId phase)).length ≤ 1

/-- The managed containers of a platform, with their rules. -/
def managed (store : Store) : List Container := store.containers.filter Container.isManaged

/-- A platform that is kept up since a start: identifiers tell its containers apart, each phase keeps
to one container, and the managed containers are those of the start. -/
structure Upkeep (start store : Store) : Prop where
  addressed : store.Addressed
  sole : store.Sole
  managed : store.managed = start.managed

namespace Upkeep

variable {start before after : Store} {zoneId containerId : String} {phase : Phase}
  {container : Container} {rules : List RemoteRule}

theorem of_containers_eq (upkeep : start.Upkeep before)
    (containers : after.containers = before.containers) (issued : before.issued ≤ after.issued) :
    start.Upkeep after := by
  refine ⟨upkeep.addressed.of_containers_eq containers issued, ?_, ?_⟩
  · unfold Sole
    rw [containers]
    exact upkeep.sole
  · rw [Store.managed, containers]
    exact upkeep.managed

private theorem of_holding (upkeep : start.Upkeep before) (same : after.holding = before.holding) :
    start.Upkeep after :=
  upkeep.of_containers_eq (containers_of_holding same) (Nat.le_of_eq (issued_of_holding same).symm)

theorem provision (upkeep : start.Upkeep before) (absent : before.serving? zoneId phase = none) :
    start.Upkeep (before.provision zoneId phase) := by
  have containers : (before.provision zoneId phase).containers = before.containers ++
      [provisioned zoneId s!"ruleset-{before.issued + 1}" phase "zone"] := rfl
  refine ⟨upkeep.addressed.provisioned zoneId phase "zone" containers rfl, fun zone phase' => ?_, ?_⟩
  · rw [containers, List.filter_append]
    cases serves : Container.servesIn zone phase'
        (provisioned zoneId s!"ruleset-{before.issued + 1}" phase "zone") with
    | false =>
      rw [List.filter_singleton, serves, cond_false, List.append_nil]
      exact upkeep.sole zone phase'
    | true =>
      simp only [provisioned, Container.servesIn, ContainerSummary.serves, Bool.and_eq_true,
        beq_iff_eq] at serves
      obtain ⟨rfl, word, -⟩ := serves
      obtain rfl := Phase.word_injective word
      have none : before.containers.filter (Container.servesIn zoneId phase) = [] :=
        List.filter_eq_nil_iff.mpr (List.find?_eq_none.mp absent)
      rw [none, List.nil_append]
      exact List.length_filter_le _ _
  · have own : Container.isManaged
        (provisioned zoneId s!"ruleset-{before.issued + 1}" phase "zone") = false := rfl
    rw [Store.managed, containers, List.filter_append, List.filter_singleton, own, cond_false,
      List.append_nil]
    exact upkeep.managed

theorem withRules (upkeep : start.Upkeep before)
    (found : before.container? zoneId containerId = some container)
    (own : container.isManaged = false)
    (containers : after.containers = (before.withRules zoneId containerId rules).containers)
    (issued : before.issued ≤ after.issued) : start.Upkeep after := by
  obtain ⟨front, back, shape, absent, here⟩ := container?_split found
  rw [withRules_containers shape absent here] at containers
  refine ⟨upkeep.addressed.rewritten shape containers issued, fun zone phase => ?_, ?_⟩
  · have sole := upkeep.sole zone phase
    have serves : Container.servesIn zone phase { container with rules } =
        container.servesIn zone phase := rfl
    rw [shape, List.filter_append, List.filter_cons, List.length_append] at sole
    rw [containers, List.filter_append, List.filter_cons, List.length_append, serves]
    cases serving : container.servesIn zone phase <;> simpa [serving] using sole
  · have managed := upkeep.managed
    have own' : Container.isManaged { container with rules } = false := own
    rw [Store.managed, shape] at managed
    rw [Store.managed, containers, ← managed]
    simp [own, own']

end Upkeep

end Store

namespace DesiredRule

variable {desired : DesiredRule} {zoneId : String} {start before after : Store} {outcome : Outcome}
  {result : Except Error Outcome}

private theorem upkeep_provided (upkeep : start.Upkeep before) (desired : DesiredRule)
    (zoneId : String) :
    start.Upkeep (desired.provided zoneId before) := by
  unfold provided
  split
  · next absent => exact upkeep.provision absent
  · exact upkeep

theorem Carried.upkeep (carried : desired.Carried zoneId before outcome after.holding)
    (upkeep : start.Upkeep before) : start.Upkeep after := by
  generalize holds : after.holding = holding at carried
  cases carried with
  | idle unwanted absent => exact upkeep.of_holding holds
  | revised serving container serves found revision =>
    have provided := upkeep_provided upkeep desired zoneId
    -- The container that is fetched is the serving one.
    rw [provided.addressed.container?_of_serving serves] at found
    obtain rfl := Option.some.inj found
    have own := Container.isManaged_of_servesIn (List.find?_some serves)
    have issued := congrArg Prod.snd holds
    exact provided.withRules (provided.addressed.container?_of_serving serves) own
      (congrArg Prod.fst holds) (Nat.le_trans revision.issued_le (Nat.le_of_eq issued.symm))

/-- A run over an entry keeps a platform up, however it ends. -/
theorem Carries.upkeep (carries : desired.Carries zoneId before result after.holding)
    (upkeep : start.Upkeep before) : start.Upkeep after := by
  cases result with
  | ok outcome => exact Carried.upkeep carries upkeep
  | error fault =>
    rcases carries with same | same | ⟨outcome, carried⟩
    · exact upkeep.of_holding same
    · exact (upkeep_provided upkeep desired zoneId).of_holding same
    · exact carried.upkeep upkeep

private theorem keeps_upkeep (start : Store) (desired : DesiredRule) :
    desired.Keeps fun session => start.Upkeep session.platform := by
  intro runId now zoneId session upkeep
  exact reconcile_carries.imp fun result after carries => Carries.upkeep carries upkeep

end DesiredRule

namespace Session.Works

variable {start : Store} {session last : Session Store}

/-- A platform is kept up in every session. -/
theorem upkeep (works : Works session last) (upkeep : start.Upkeep session.platform) :
    start.Upkeep last.platform :=
  works.keeps (DesiredRule.keeps_upkeep start)
    (fun _ _ containers issued _ upkeep =>
      upkeep.of_containers_eq containers (Nat.le_of_eq issued.symm)) upkeep

/-- Through every session, whatever fails in it, one container at most serves each phase of a zone,
and the managed containers keep their rules. -/
theorem sole_containers (addressed : session.platform.Addressed) (sole : session.platform.Sole)
    (works : Works session last) :
    last.platform.Sole ∧ last.platform.managed = session.platform.managed := by
  obtain ⟨-, sole', managed⟩ := works.upkeep ⟨addressed, sole, rfl⟩
  exact ⟨sole', managed⟩

/-- A zone with a managed container for the phase of the override, which holds a rule with its
tag. -/
def managedSession : Session Store where
  platform := { Store.empty with
    zones := [("example.com", "zone")]
    containers := [{ Store.provisioned "zone" s!"ruleset-{1}" .ddos "managed" with
      rules := [Store.ruleOf "rule" ⟨"default_rule", .execute, "true", true, none, none, none⟩] }]
    issued := 1 }
  logbook := .empty "journal"

/-- The override is requested while no container can be created. -/
def deniedSession : Session Store :=
  (onStore default default (Request.apply (.ddos ⟨"example.com", "2"⟩))
    { managedSession with platform := managedSession.platform.fail .createContainer }).2

/-- It is requested again, and the creation of its container is reported as lost. -/
def contestedSession : Session Store :=
  (onStore default default (Request.apply (.ddos ⟨"example.com", "2"⟩))
    { deniedSession with
      platform := (deniedSession.platform.restore .createContainer).loseRace }).2

theorem sole_containers_sample :
    (managedSession.platform.Addressed ∧ managedSession.platform.Sole ∧
      Works managedSession contestedSession) ∧
    contestedSession.platform.containers.map (·.rules.map (·.tag)) =
      [["default_rule"], ["default_rule"]] ∧
    contestedSession.platform.Sole ∧
      contestedSession.platform.managed = managedSession.platform.managed := by
  have addressed : managedSession.platform.Addressed := by
    refine ⟨List.nodup_singleton _, fun n later => List.forall_mem_singleton.mpr fun same => ?_⟩
    have number := Store.containerId_injective same
    have issued : 1 < n := later
    omega
  have sole : managedSession.platform.Sole := fun _ _ => List.length_filter_le _ _
  have contested : Works deniedSession contestedSession :=
    .set { deniedSession with
        platform := (deniedSession.platform.restore .createContainer).loseRace } rfl rfl rfl <|
      .applied default default (.ddos ⟨"example.com", "2"⟩) (.done _)
  have works : Works managedSession contestedSession :=
    .failing .createContainer <|
      .applied default default (.ddos ⟨"example.com", "2"⟩) contested
  exact ⟨⟨addressed, sole, works⟩, by decide +kernel, sole_containers addressed sole works⟩

end Session.Works

end EdgePolicy
