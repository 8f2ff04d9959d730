import Mathlib.Data.List.Nodup
import EdgePolicy.Zone.Store

/-
The containers of a platform held in memory.

The container that serves a phase of a zone is the first one listed, and the rules of a tag are
looked for in it.  `Store.Addressed` says that identifiers tell the containers apart; then the
serving container is the one that is fetched under its identifier (`container?_of_serving`).
`Store.WellFormed` says the same of the rules of each container, too.
-/

set_option autoImplicit false
set_option relaxedAutoImplicit false

namespace EdgePolicy

def Container.servesIn (zoneId : String) (phase : Phase) (container : Container) : Bool :=
  container.zoneId == zoneId && ContainerSummary.serves phase container.summary

def Container.key (container : Container) : String × String :=
  (container.zoneId, container.summary.id)

theorem Container.is_iff {zoneId containerId : String} {container : Container} :
    container.is zoneId containerId = true ↔ container.key = (zoneId, containerId) := by
  simp [Container.is, Container.key]

theorem Phase.word_injective {first second : Phase} (same : first.word = second.word) :
    first = second := by
  have read := Phase.ofWord_word first
  rw [same, Phase.ofWord_word] at read
  exact (Option.some.inj read).symm

theorem ContainerSummary.phase_of_serves {phase : Phase} {summary : ContainerSummary}
    (serves : ContainerSummary.serves phase summary = true) : summary.phase = phase.word := by
  simp only [ContainerSummary.serves, Bool.and_eq_true, beq_iff_eq] at serves
  exact serves.1

theorem ContainerSummary.serves_injective {first second : Phase} {summary : ContainerSummary}
    (serves : ContainerSummary.serves first summary = true)
    (serves' : ContainerSummary.serves second summary = true) : first = second :=
  Phase.word_injective ((phase_of_serves serves).symm.trans (phase_of_serves serves'))

namespace Store

/-- The container that serves a phase of a zone. -/
def serving? (store : Store) (zoneId : String) (phase : Phase) : Option Container :=
  store.containers.find? (Container.servesIn zoneId phase)

/-- The rules with a tag in the container that serves a phase of a zone. -/
def tagged (store : Store) (zoneId : String) (phase : Phase) (tag : String) : List RemoteRule :=
  match store.serving? zoneId phase with
  | some container => container.rules.filter (·.tag == tag)
  | none => []

/-- No container has two rules with a tag. -/
def Once (store : Store) (tag : String) : Prop :=
  ∀ container ∈ store.containers, (container.rules.filter (·.tag == tag)).length ≤ 1

/-- What a platform holds: its containers, and the number of identifiers handed out. -/
def holding (store : Store) : List Container × Nat := (store.containers, store.issued)

theorem holding_eq {store other : Store} (containers : store.containers = other.containers)
    (issued : store.issued = other.issued) : store.holding = other.holding :=
  Prod.ext containers issued

theorem containers_of_holding {store other : Store} (same : store.holding = other.holding) :
    store.containers = other.containers :=
  congrArg Prod.fst same

theorem issued_of_holding {store other : Store} (same : store.holding = other.holding) :
    store.issued = other.issued :=
  congrArg Prod.snd same

theorem select?_summaries (store : Store) (zoneId : String) (phase : Phase) :
    ContainerSummary.select?
        ((store.containers.filter (·.zoneId == zoneId)).map (·.summary)) phase =
      (store.serving? zoneId phase).map (·.summary) := by
  unfold ContainerSummary.select? serving?
  rw [List.find?_map, List.find?_filter]
  congr 2
  funext container
  simp only [Container.servesIn, Function.comp_apply, Bool.decide_and, Bool.decide_eq_true]

/-- A platform whose identifiers tell the containers of each zone apart, and none of which is one
that is still to be handed out. -/
structure Addressed (store : Store) : Prop where
  keys : (store.containers.map Container.key).Nodup
  freshContainers : ∀ n, store.issued < n → ∀ container ∈ store.containers,
    container.summary.id ≠ s!"ruleset-{n}"

/-- A platform whose identifiers tell its containers and the rules of each container apart, and
none of which is one that is still to be handed out. -/
structure WellFormed (store : Store) : Prop where
  keys : (store.containers.map Container.key).Nodup
  ruleIds : ∀ container ∈ store.containers, (container.rules.map (·.id)).Nodup
  freshContainers : ∀ n, store.issued < n → ∀ container ∈ store.containers,
    container.summary.id ≠ s!"ruleset-{n}"
  freshRules : ∀ n, store.issued < n → ∀ container ∈ store.containers, ∀ rule ∈ container.rules,
    rule.id ≠ s!"rule-{n}"

theorem WellFormed.addressed {store : Store} (wellFormed : store.WellFormed) : store.Addressed :=
  ⟨wellFormed.keys, wellFormed.freshContainers⟩

theorem wellFormed_empty : Store.empty.WellFormed :=
  ⟨List.nodup_nil, by simp [Store.empty], by simp [Store.empty], by simp [Store.empty]⟩

private theorem findIdx_append_cons {α : Type} {p : α → Bool} {front back : List α} {item : α}
    (absent : ∀ other ∈ front, p other = false) (here : p item = true) :
    (front ++ item :: back).findIdx p = front.length := by
  induction front with
  | nil => simp [List.findIdx_cons, here]
  | cons first rest ih =>
    simp only [List.forall_mem_cons] at absent
    simp only [List.cons_append, List.findIdx_cons, absent.1, cond_false, ih absent.2,
      List.length_cons]

private theorem modify_findIdx {α : Type} {p : α → Bool} {f : α → α} {front back : List α}
    {item : α} (absent : ∀ other ∈ front, p other = false) (here : p item = true) :
    (front ++ item :: back).modify ((front ++ item :: back).findIdx p) f =
      front ++ f item :: back := by
  rw [findIdx_append_cons absent here, List.modify_eq_set_getElem?]
  simp

theorem set_findIdx {α : Type} {p : α → Bool} {front back : List α} {item : α} (value : α)
    (absent : ∀ other ∈ front, p other = false) (here : p item = true) :
    (front ++ item :: back).set ((front ++ item :: back).findIdx p) value =
      front ++ value :: back := by
  rw [findIdx_append_cons absent here]
  simp

section Changes

variable {store : Store} {zoneId containerId : String} {phase : Phase}

theorem withRules_containers {front back : List Container} {container : Container}
    (shape : store.containers = front ++ container :: back)
    (absent : ∀ other ∈ front, other.is zoneId containerId = false)
    (here : container.is zoneId containerId = true) (rules : List RemoteRule) :
    (store.withRules zoneId containerId rules).containers =
      front ++ { container with rules } :: back := by
  unfold withRules
  rw [shape]
  exact modify_findIdx absent here

theorem container?_split {container : Container}
    (found : store.container? zoneId containerId = some container) :
    ∃ front back, store.containers = front ++ container :: back ∧
      (∀ other ∈ front, other.is zoneId containerId = false) ∧
      container.is zoneId containerId = true := by
  obtain ⟨here, front, back, shape, others⟩ := List.find?_eq_some_iff_append.mp found
  exact ⟨front, back, shape, by simpa using others, here⟩

theorem withRules_self {container : Container}
    (found : store.container? zoneId containerId = some container) :
    (store.withRules zoneId containerId container.rules).containers = store.containers := by
  obtain ⟨front, back, shape, absent, here⟩ := container?_split found
  rw [withRules_containers shape absent here, shape]

theorem serving?_eq_some {container : Container}
    (serves : store.serving? zoneId phase = some container) :
    container ∈ store.containers ∧ container.zoneId = zoneId ∧
      ContainerSummary.serves phase container.summary = true := by
  have found := List.find?_some serves
  simp only [Container.servesIn, Bool.and_eq_true, beq_iff_eq] at found
  exact ⟨List.mem_of_find?_eq_some serves, found⟩

theorem container?_isSome {container : Container}
    (serves : store.serving? zoneId phase = some container) :
    ∃ other, store.container? zoneId container.summary.id = some other := by
  obtain ⟨member, zone, -⟩ := serving?_eq_some serves
  have here : container.is zoneId container.summary.id = true := by
    rw [Container.is, zone]
    simp
  exact Option.isSome_iff_exists.mp (List.find?_isSome.mpr ⟨container, member, here⟩)

private theorem Addressed.container?_of_mem (addressed : store.Addressed) {container : Container}
    (member : container ∈ store.containers) :
    store.container? container.zoneId container.summary.id = some container := by
  have keys := addressed.keys
  unfold container?
  generalize store.containers = containers at keys member
  induction containers with
  | nil => simp at member
  | cons first rest ih =>
    simp only [List.map_cons, List.nodup_cons] at keys
    rcases List.mem_cons.mp member with rfl | later
    · simp [Container.is]
    · have other : ¬ first.is container.zoneId container.summary.id = true := fun same =>
        keys.1 (List.mem_map.mpr ⟨container, later, (Container.is_iff.mp same).symm⟩)
      rw [List.find?_cons_of_neg other]
      exact ih keys.2 later

theorem Addressed.container?_of_serving (addressed : store.Addressed) {container : Container}
    (serves : store.serving? zoneId phase = some container) :
    store.container? zoneId container.summary.id = some container := by
  obtain ⟨member, rfl, -⟩ := serving?_eq_some serves
  exact addressed.container?_of_mem member

theorem container?_of_serving (wellFormed : store.WellFormed) {container : Container}
    (serves : store.serving? zoneId phase = some container) :
    store.container? zoneId container.summary.id = some container :=
  wellFormed.addressed.container?_of_serving serves

theorem serving?_split (wellFormed : store.WellFormed) {container : Container}
    (serves : store.serving? zoneId phase = some container) :
    ∃ front back, store.containers = front ++ container :: back ∧
      (∀ other ∈ front, other.servesIn zoneId phase = false) ∧
      container.servesIn zoneId phase = true ∧
      (∀ other ∈ front, other.is zoneId container.summary.id = false) := by
  obtain ⟨here, front, back, shape, others⟩ := List.find?_eq_some_iff_append.mp serves
  refine ⟨front, back, shape, by simpa using others, here, fun other member => ?_⟩
  have zone : container.zoneId = zoneId := (serving?_eq_some serves).2.1
  have keys := wellFormed.keys
  rw [shape, List.map_append, List.map_cons] at keys
  rw [← Bool.not_eq_true, Container.is_iff]
  intro same
  refine (List.nodup_append.mp keys).2.2 other.key (List.mem_map_of_mem member) container.key
    List.mem_cons_self ?_
  rw [same, Container.key, zone]

theorem tagged_of_serving {container : Container}
    (serves : store.serving? zoneId phase = some container) (tag : String) :
    store.tagged zoneId phase tag = container.rules.filter (·.tag == tag) := by
  rw [tagged, serves]

theorem tagged_of_none (absent : store.serving? zoneId phase = none) (tag : String) :
    store.tagged zoneId phase tag = [] := by
  rw [tagged, absent]

theorem tagged_of_containers {other : Store} (same : other.containers = store.containers)
    (zoneId : String) (phase : Phase) (tag : String) :
    other.tagged zoneId phase tag = store.tagged zoneId phase tag := by
  unfold tagged serving?
  rw [same]

end Changes

end Store

end EdgePolicy
