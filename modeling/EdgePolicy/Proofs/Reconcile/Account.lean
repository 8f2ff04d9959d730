import EdgePolicy.Proofs.Reconcile.Revision
import EdgePolicy.Proofs.Zone.Contents
import EdgePolicy.Proofs.Zone.Silence

/-
What a run over one entry does to the rules of a platform, next to what it records.

`Accounts` ties the two together: a run that fails changes no rule and records nothing, and any
other records one decision, whose outcome says how the rules of one container were revised.
-/

set_option autoImplicit false
set_option relaxedAutoImplicit false

namespace EdgePolicy

open Session (Leads)

def Logbook.noted (logbook : Logbook) (runId : RunId) (now : Timestamp) (decision : Decision) :
    Logbook :=
  { logbook with journal := logbook.journal.append (decision.record runId now) }

private theorem Logbook.record_noted {logbook : Logbook} (available : logbook.available = true)
    (runId : RunId) (now : Timestamp) (decision : Decision) :
    logbook.record runId now decision = (.ok (), logbook.noted runId now decision) := by
  rw [record, if_pos available]
  rfl

theorem Session.Leads.noted {runId : RunId} {now : Timestamp} {session : Session Store}
    {decision : Decision} {post : Except Error Unit → Session Store → Prop}
    (available : session.logbook.available = true)
    (holds : post (.ok ())
      { session with logbook := session.logbook.noted runId now decision }) :
    Leads runId now (Procedure.record decision) session post := by
  unfold Leads Procedure.record
  rw [onStore_note, Logbook.record_noted available]
  exact holds

namespace DesiredRule

/-- How a run over an entry ends on a platform, and what it has recorded by then. -/
inductive Accounts (desired : DesiredRule) (zoneId : String) (runId : RunId) (now : Timestamp)
    (before after : Session Store) : Except Error Outcome → Prop
  | failed (fault : Error)
      (same : ∀ zoneId' containerId', after.platform.rulesAt zoneId' containerId' =
        before.platform.rulesAt zoneId' containerId')
      (logbook : after.logbook = before.logbook) :
      Accounts desired zoneId runId now before after (.error fault)
  | idle
      (same : ∀ zoneId' containerId', after.platform.rulesAt zoneId' containerId' =
        before.platform.rulesAt zoneId' containerId')
      (logbook : after.logbook = before.logbook.noted runId now
        (desired.decision zoneId none (.unchanged none))) :
      Accounts desired zoneId runId now before after (.ok (.unchanged none))
  | revised {container : Container} {outcome : Outcome} {rules : List RemoteRule}
      {number issued : Nat} (containerId : String)
      (held : before.platform.rulesAt zoneId containerId = container.rules)
      (revision : desired.Revision container number outcome rules issued)
      (becomes : ∀ zoneId' containerId', after.platform.rulesAt zoneId' containerId' =
        if zoneId' = zoneId ∧ containerId' = containerId then rules
        else before.platform.rulesAt zoneId' containerId')
      (logbook : after.logbook = before.logbook.noted runId now
        (desired.decision zoneId (some containerId) outcome)) :
      Accounts desired zoneId runId now before after (.ok outcome)

variable {desired : DesiredRule} {zoneId : String} {runId : RunId} {now : Timestamp}
  {session after : Session Store} {result : Except Error Outcome}

theorem Accounts.available (accounts : desired.Accounts zoneId runId now session after result) :
    after.logbook.available = session.logbook.available := by
  cases accounts with
  | failed fault same logbook => rw [logbook]
  | idle same logbook => rw [logbook]; rfl
  | revised containerId held revision becomes logbook => rw [logbook]; rfl

theorem rulesAt_provided (desired : DesiredRule) (zoneId : String) (store : Store)
    (zoneId' containerId' : String) :
    (desired.provided zoneId store).rulesAt zoneId' containerId' =
      store.rulesAt zoneId' containerId' := by
  unfold provided
  split
  · exact Store.rulesAt_provision _ _ _ _ _
  · rfl

theorem reconcile_accounts (available : session.logbook.available = true) :
    Leads runId now (desired.reconcile zoneId) session fun result after =>
      desired.Accounts zoneId runId now session after result := by
  unfold reconcile
  refine .bind ((locate_provides.silent (.locate desired zoneId)).imp
    fun result middle ends => ?_)
  obtain ⟨finds, logbook⟩ := ends
  have available' : middle.logbook.available = true := logbook ▸ available
  have keeps : middle.platform.holding = (desired.provided zoneId session.platform).holding →
      ∀ zoneId' containerId', middle.platform.rulesAt zoneId' containerId' =
        session.platform.rulesAt zoneId' containerId' := fun same zoneId' containerId' => by
    rw [← rulesAt_provided desired zoneId session.platform zoneId' containerId']
    exact Store.rulesAt_of_containers (Store.containers_of_holding same) _ _
  cases result with
  | error fault =>
    exact .failed fault (Store.rulesAt_of_containers (Store.containers_of_holding finds)) logbook
  | ok containerId =>
    cases finds with
    | nowhere same absent =>
      refine .bind (.noted available' (.pure (.idle (keeps same) ?_)))
      rw [logbook]
    | somewhere serving container same serves found =>
      have kept := keeps same
      have found' := (Store.container?_of_holding same _ _).trans found
      refine .bind (.fetch found' (fun fault _ => .failed fault kept logbook) fun _ fetched => ?_)
      refine .bind (((settle_revises fetched).silent (.settle _ _ _ _)).imp
        fun result late settles => ?_)
      obtain ⟨settles, logbook'⟩ := settles
      have quiet : late.logbook = session.logbook := logbook'.trans logbook
      cases result with
      | error fault =>
        refine .failed fault (fun zoneId' containerId' => ?_) quiet
        rw [← kept]
        exact Store.rulesAt_of_containers (Store.containers_of_holding settles) _ _
      | ok outcome =>
        obtain ⟨rules, issued, revision, holds⟩ := settles
        have held : session.platform.rulesAt zoneId serving.summary.id = container.rules := by
          rw [← kept]
          exact Store.rulesAt_of_container? found'
        refine .bind (.noted (quiet ▸ available) (.pure (.revised serving.summary.id held revision
          (fun zoneId' containerId' => ?_) ?_)))
        · rw [← kept]
          exact (Store.rulesAt_of_containers (congrArg Prod.fst holds) _ _).trans
            (Store.rulesAt_withRules found' rules zoneId' containerId')
        · rw [quiet]

end DesiredRule

end EdgePolicy
