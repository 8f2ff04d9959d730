import EdgePolicy.Proofs.Zone.Progress

/-
The rules of each container of a platform, by zone and identifier.

A container that does not exist has no rules, so a container that is provisioned changes nothing.
-/

set_option autoImplicit false
set_option relaxedAutoImplicit false

namespace EdgePolicy.Store

/-- The rules of the container of a zone with an identifier. -/
def rulesAt (store : Store) (zoneId containerId : String) : List RemoteRule :=
  ((store.container? zoneId containerId).map (·.rules)).getD []

variable {store other : Store} {zoneId containerId : String} {container : Container}

theorem rulesAt_of_container? (found : store.container? zoneId containerId = some container) :
    store.rulesAt zoneId containerId = container.rules := by
  rw [rulesAt, found]
  rfl

theorem rulesAt_of_containers (same : other.containers = store.containers)
    (zoneId containerId : String) :
    other.rulesAt zoneId containerId = store.rulesAt zoneId containerId := by
  unfold rulesAt container?
  rw [same]

theorem rulesAt_provision (store : Store) (zoneId containerId zoneId' : String) (phase : Phase) :
    (store.provision zoneId' phase).rulesAt zoneId containerId =
      store.rulesAt zoneId containerId := by
  have appended : (store.provision zoneId' phase).containers = store.containers ++
      [provisioned zoneId' s!"ruleset-{store.issued + 1}" phase "zone"] := rfl
  unfold rulesAt container?
  rw [appended, List.find?_append]
  cases store.containers.find? (Container.is zoneId containerId) with
  | some earlier => rfl
  | none =>
    rw [Option.none_or, List.find?_singleton]
    split <;> rfl

theorem container?_withRules (found : store.container? zoneId containerId = some container)
    (rules : List RemoteRule) :
    (store.withRules zoneId containerId rules).container? zoneId containerId =
      some { container with rules } := by
  obtain ⟨front, back, shape, absent, here⟩ := container?_split found
  have first : front.find? (Container.is zoneId containerId) = none :=
    List.find?_eq_none.mpr fun other member => by simp [absent other member]
  have key : Container.is zoneId containerId { container with rules } = true := here
  rw [container?, withRules_containers shape absent here rules, List.find?_append, first,
    Option.none_or, List.find?_cons_of_pos key]

theorem rulesAt_withRules (found : store.container? zoneId containerId = some container)
    (rules : List RemoteRule) (zoneId' containerId' : String) :
    (store.withRules zoneId containerId rules).rulesAt zoneId' containerId' =
      if zoneId' = zoneId ∧ containerId' = containerId then rules
      else store.rulesAt zoneId' containerId' := by
  obtain ⟨front, back, shape, absent, here⟩ := container?_split found
  have containers := withRules_containers shape absent here rules
  have key : Container.is zoneId' containerId' { container with rules } =
      container.is zoneId' containerId' := rfl
  by_cases same : zoneId' = zoneId ∧ containerId' = containerId
  · obtain ⟨rfl, rfl⟩ := same
    rw [if_pos ⟨rfl, rfl⟩, rulesAt_of_container? (container?_withRules found rules)]
  · have elsewhere : container.is zoneId' containerId' = false := by
      rw [← Bool.not_eq_true, Container.is_iff]
      intro same'
      obtain ⟨zone, id⟩ := Prod.mk.inj ((Container.is_iff.mp here).symm.trans same')
      exact same ⟨zone.symm, id.symm⟩
    rw [if_neg same, rulesAt, rulesAt, container?, container?, containers, shape,
      List.find?_append, List.find?_append, List.find?_cons, List.find?_cons, key, elsewhere]

theorem nodup_rulesAt (wellFormed : store.WellFormed) (zoneId containerId : String) :
    ((store.rulesAt zoneId containerId).map (·.id)).Nodup := by
  cases found : store.container? zoneId containerId with
  | none =>
    rw [rulesAt, found]
    exact List.nodup_nil
  | some container =>
    rw [rulesAt_of_container? found]
    exact wellFormed.ruleIds container (List.mem_of_find?_eq_some found)

end EdgePolicy.Store
