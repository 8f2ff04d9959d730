import Mathlib.Data.List.InsertIdx
import EdgePolicy.Apply
import EdgePolicy.Proofs.Reconcile.Account
import EdgePolicy.Proofs.Reconcile.Ordering
import EdgePolicy.Proofs.Reconcile.Requests
import EdgePolicy.Proofs.Reconcile.Retry

/-
The journal of a session replays what the session did (`Session.Works.journal_replays`).

The identifiers of the rules of a container, in their order, are those it had at first after the
recorded outcomes have been replayed on them one by one.  This holds after every step of a session
and whether or not the step failed (`Session.Works.keeps`), since a run over an entry either changes
no rule and records nothing, or records the one change that it made (`DesiredRule.Accounts`).
-/

set_option autoImplicit false
set_option relaxedAutoImplicit false

namespace EdgePolicy

open Session (Leads onStore)

/-- The index at which a position puts a new identifier. -/
def Position.slot? (ids : List String) : Option Position → Option Nat
  | none => some ids.length
  | some (.before anchor) => ids.findIdx? (· == anchor)
  | some (.after anchor) => (ids.findIdx? (· == anchor)).map (· + 1)

private theorem Position.slot?_of_index? {rules : List RemoteRule} {position? : Option Position}
    {index : Nat} (placed : Store.index? rules position? = .ok index) :
    slot? (rules.map (·.id)) position? = some index := by
  unfold Store.index? at placed
  split at placed
  · obtain rfl := Except.ok.inj placed
    exact congrArg some (List.length_map _)
  all_goals
    split at placed
    · rename_i found
      obtain rfl := Except.ok.inj placed
      simp only [slot?, List.findIdx?_map, Function.comp_def, found, Option.map_some]
    · cases placed

namespace Outcome

/-- Replay an outcome on the identifiers of the rules of a container: a created rule goes where its
position puts it, a deleted one goes away, and nothing else moves. -/
def replay? (ids : List String) : Outcome → Option (List String)
  | unchanged _ => some ids
  | created ruleId position =>
    (Position.slot? ids position).map fun slot => ids.insertIdx slot ruleId
  | patched _ => some ids
  | deleted ruleId => if ruleId ∈ ids then some (ids.filter (· != ruleId)) else none

/-- The outcome has written a rule. -/
def isWritten : Outcome → Bool
  | created _ _ | patched _ => true
  | unchanged _ | deleted _ => false

end Outcome

namespace ChangeRecord

def isAbout (zoneId containerId : String) (record : ChangeRecord) : Bool :=
  record.zoneId == zoneId && record.containerId == some containerId

/-- The record is about a change of the rule with a tag in a container of a zone. -/
def changes (zoneId containerId tag : String) (record : ChangeRecord) : Bool :=
  record.isAbout zoneId containerId && record.tag == tag && record.outcome.isMutation

/-- Replay the records about a container of a zone on the identifiers of its rules. -/
def replay? (zoneId containerId : String) (records : List ChangeRecord) (ids : List String) :
    Option (List String) :=
  (records.filter (isAbout zoneId containerId)).foldlM
    (fun ids record => record.outcome.replay? ids) ids

/-- The last recorded change of the rule with a tag in a container of a zone. -/
def lastChange? (zoneId containerId tag : String) (records : List ChangeRecord) :
    Option ChangeRecord :=
  records.reverse.find? (changes zoneId containerId tag)

variable {zoneId containerId tag : String} {record : ChangeRecord} {records : List ChangeRecord}
  {ids : List String}

private theorem isAbout_iff :
    record.isAbout zoneId containerId = true ↔
      record.zoneId = zoneId ∧ record.containerId = some containerId := by
  rw [isAbout, Bool.and_eq_true, beq_iff_eq, beq_iff_eq]

private theorem replay?_concat :
    replay? zoneId containerId (records ++ [record]) ids =
      (replay? zoneId containerId records ids).bind fun ids' =>
        if record.isAbout zoneId containerId then record.outcome.replay? ids' else some ids' := by
  unfold replay?
  rw [List.filter_append, List.filter_singleton, List.foldlM_append]
  cases record.isAbout zoneId containerId with
  | false => rfl
  | true => exact congrArg (Option.bind _) (funext fun ids' => bind_pure _)

private theorem lastChange?_concat :
    lastChange? zoneId containerId tag (records ++ [record]) =
      if record.changes zoneId containerId tag then some record
      else lastChange? zoneId containerId tag records := by
  unfold lastChange?
  rw [List.reverse_append, List.reverse_singleton, List.singleton_append, List.find?_cons]
  cases record.changes zoneId containerId tag <;> rfl

end ChangeRecord

/-- The changes that a logbook has recorded, oldest first. -/
def Logbook.records (logbook : Logbook) : List ChangeRecord :=
  logbook.journal.entries.map (·.record)

private theorem Logbook.records_noted (logbook : Logbook) (runId : RunId) (now : Timestamp)
    (decision : Decision) :
    (logbook.noted runId now decision).records =
      logbook.records ++ [decision.record runId now] :=
  List.map_append

namespace DesiredRule

variable {desired : DesiredRule} {container : Container} {outcome : Outcome}
  {rules : List RemoteRule} {number issued : Nat}

private theorem Revision.replays (revision : desired.Revision container number outcome rules issued)
    (ids : (container.rules.map (·.id)).Nodup) :
    outcome.replay? (container.rules.map (·.id)) = some (rules.map (·.id)) := by
  cases revision with
  | kept rule? was accepted => rfl
  | created body index wanted was placed =>
    rw [Outcome.replay?, Position.slot?_of_index? placed, Option.map_some, List.map_insertIdx]
    rfl
  | patched body old rule wanted was differs here =>
    obtain ⟨rfl, -, front, back, shape, replaced⟩ := replaced_of_nodup ids was here
      (Store.patched rule (body.request desired.tag none))
    rw [replaced, shape, Outcome.replay?]
    simp [Store.patched, Store.ruleOf]
  | deleted old unwanted was =>
    obtain ⟨front, back, shape, -, -, -⟩ := filter_eq_singleton was
    have held : old.id ∈ container.rules.map (·.id) := by simp [shape]
    rw [Outcome.replay?, if_pos held, List.filter_map]
    rfl

theorem Revision.others (revision : desired.Revision container number outcome rules issued)
    (ids : (container.rules.map (·.id)).Nodup) {tag : String} (other : tag ≠ desired.tag) :
    rules.filter (·.tag == tag) = container.rules.filter (·.tag == tag) := by
  rcases revision.edit ids with ⟨rfl, -⟩ | edit
  · rfl
  · refine edit.others fun rule tagged => ?_
    rw [beq_eq_false_iff_ne, tagged]
    exact other.symm

theorem Revision.writes (revision : desired.Revision container number outcome rules issued)
    (ids : (container.rules.map (·.id)).Nodup) (written : outcome.isWritten = true) :
    ∃ rule, rules.filter (·.tag == desired.tag) = [rule] ∧
      desired.body.map (·.expression) = some rule.expression := by
  cases revision with
  | kept rule? was accepted => nomatch written
  | created body index wanted was placed =>
    have bound := Store.index?_le placed
    rw [← List.take_append_drop index container.rules, List.filter_append,
      List.append_eq_nil_iff] at was
    rw [insertIdx_eq_append _ bound, wanted]
    exact ⟨_, filter_middle was.1 (beq_self_eq_true _) was.2, rfl⟩
  | patched body old rule wanted was differs here =>
    obtain ⟨front, back, shape, tagged, inFront, inBack⟩ := filter_eq_singleton was
    obtain ⟨here', replaced⟩ := Store.replace_of_nodup ids shape
      (Store.patched rule (body.request desired.tag none))
    rw [replaced, wanted]
    exact ⟨_, filter_middle inFront (beq_self_eq_true _) inBack, rfl⟩
  | deleted old unwanted was => nomatch written

private theorem Revision.kept_of_unchanged
    (revision : desired.Revision container number outcome rules issued)
    (still : outcome.isMutation = false) : rules = container.rules := by
  cases revision with
  | kept rule? was accepted => rfl
  | created body index wanted was placed => nomatch still
  | patched body old rule wanted was differs here => nomatch still
  | deleted old unwanted was => nomatch still

end DesiredRule

/-- The records of what was done between two states of a platform: replayed on the rules of a
container of the first they give the rules of the second in their order, and a rule has the
expression that was recorded when it was last written. -/
structure Store.Replays (records : List ChangeRecord) (before after : Store) : Prop where
  order : ∀ zoneId containerId,
    ChangeRecord.replay? zoneId containerId records
        ((before.rulesAt zoneId containerId).map (·.id)) =
      some ((after.rulesAt zoneId containerId).map (·.id))
  expressions : ∀ zoneId containerId tag record,
    ChangeRecord.lastChange? zoneId containerId tag records = some record →
      record.outcome.isWritten = true →
        ∃ rule, (after.rulesAt zoneId containerId).filter (·.tag == tag) = [rule] ∧
          record.expression = some rule.expression

namespace Store.Replays

variable {records : List ChangeRecord} {before middle after : Store}

theorem nil (store : Store) : Replays [] store store :=
  ⟨fun _ _ => rfl, fun _ _ _ _ => nofun⟩

theorem congr (replays : Replays records before middle)
    (same : ∀ zoneId containerId,
      after.rulesAt zoneId containerId = middle.rulesAt zoneId containerId) :
    Replays records before after := by
  refine ⟨fun zoneId containerId => ?_, fun zoneId containerId tag record => ?_⟩
  · rw [same]
    exact replays.order zoneId containerId
  · rw [same]
    exact replays.expressions zoneId containerId tag record

theorem idle (replays : Replays records before middle)
    (same : ∀ zoneId containerId,
      after.rulesAt zoneId containerId = middle.rulesAt zoneId containerId)
    {record : ChangeRecord} (nowhere : record.containerId = none) :
    Replays (records ++ [record]) before after := by
  have apart : ∀ zoneId containerId, record.isAbout zoneId containerId = false := by
    intro zoneId containerId
    rw [ChangeRecord.isAbout, nowhere]
    exact Bool.and_false _
  obtain ⟨order, expressions⟩ := replays.congr same
  refine ⟨fun zoneId containerId => ?_, fun zoneId containerId tag last found => ?_⟩
  · rw [ChangeRecord.replay?_concat, order, apart]
    rfl
  · rw [ChangeRecord.lastChange?_concat, ChangeRecord.changes, apart] at found
    exact expressions zoneId containerId tag last found

theorem revised {desired : DesiredRule} {container : Container} {outcome : Outcome}
    {rules : List RemoteRule} {number issued : Nat} {zoneId containerId : String}
    (replays : Replays records before middle)
    (held : middle.rulesAt zoneId containerId = container.rules)
    (ids : (container.rules.map (·.id)).Nodup)
    (revision : desired.Revision container number outcome rules issued)
    (becomes : ∀ zoneId' containerId', after.rulesAt zoneId' containerId' =
      if zoneId' = zoneId ∧ containerId' = containerId then rules
      else middle.rulesAt zoneId' containerId') (runId : RunId) (now : Timestamp) :
    Replays (records ++ [(desired.decision zoneId (some containerId) outcome).record runId now])
      before after := by
  have about : ∀ zoneId' containerId', ((desired.decision zoneId (some containerId) outcome).record
      runId now).isAbout zoneId' containerId' = true ↔
        zoneId' = zoneId ∧ containerId' = containerId := by
    intro zoneId' containerId'
    rw [ChangeRecord.isAbout_iff, eq_comm, @eq_comm _ containerId']
    exact and_congr_right' Option.some_inj
  refine ⟨fun zoneId' containerId' => ?_, fun zoneId' containerId' tag last found written => ?_⟩
  · rw [ChangeRecord.replay?_concat, replays.order, Option.bind_some, becomes]
    by_cases here : zoneId' = zoneId ∧ containerId' = containerId
    · obtain ⟨rfl, rfl⟩ := here
      rw [if_pos ((about _ _).mpr ⟨rfl, rfl⟩), if_pos ⟨rfl, rfl⟩, held]
      exact revision.replays ids
    · rw [if_neg (mt (about _ _).mp here), if_neg here]
  · rw [ChangeRecord.lastChange?_concat] at found
    split at found
    -- The last change is the one just recorded.
    · rename_i changed
      rw [ChangeRecord.changes, Bool.and_eq_true, Bool.and_eq_true, about, beq_iff_eq] at changed
      obtain ⟨⟨here, rfl⟩, -⟩ := changed
      obtain rfl := Option.some.inj found
      rw [becomes, if_pos here]
      exact revision.writes ids written
    -- The last change is an earlier one, and the rules with its tag are as they were.
    · rename_i unchanged
      obtain ⟨rule, only, expression⟩ := replays.expressions _ _ _ _ found written
      refine ⟨rule, ?_, expression⟩
      rw [becomes]
      by_cases here : zoneId' = zoneId ∧ containerId' = containerId
      · rw [ChangeRecord.changes, (about _ _).mpr here, Bool.true_and, Bool.and_eq_true,
          beq_iff_eq, not_and, Bool.not_eq_true] at unchanged
        obtain ⟨rfl, rfl⟩ := here
        rw [held] at only
        rw [if_pos ⟨rfl, rfl⟩]
        by_cases same : tag = desired.tag
        · rwa [revision.kept_of_unchanged (unchanged same.symm)]
        · rwa [revision.others ids same]
      · rwa [if_neg here]

theorem accounts {desired : DesiredRule} {zoneId : String} {runId : RunId} {now : Timestamp}
    {session last : Session Store} {result : Except Error Outcome}
    (replays : Replays records before session.platform) (wellFormed : session.platform.WellFormed)
    (accounts : desired.Accounts zoneId runId now session last result) :
    ∃ more, last.logbook.records = session.logbook.records ++ more ∧
      Replays (records ++ more) before last.platform := by
  cases accounts with
  | failed fault same logbook =>
    refine ⟨[], ?_, ?_⟩
    · rw [logbook, List.append_nil]
    · rw [List.append_nil]
      exact replays.congr same
  | idle same logbook =>
    have nowhere : ((desired.decision zoneId none (.unchanged none)).record runId now).containerId =
      none := rfl
    refine ⟨_, ?_, replays.idle same nowhere⟩
    rw [logbook, Logbook.records_noted]
  | revised containerId held revision becomes logbook =>
    have ids := nodup_rulesAt wellFormed zoneId containerId
    rw [held] at ids
    refine ⟨_, ?_, replays.revised held ids revision becomes runId now⟩
    rw [logbook, Logbook.records_noted]

end Store.Replays

/-- A session that goes on from an earlier one, and has recorded what was done since. -/
structure Session.Faithful (start session : Session Store) : Prop where
  wellFormed : session.platform.WellFormed
  available : session.logbook.available = true
  recorded : ∃ records, session.logbook.records = start.logbook.records ++ records ∧
    Store.Replays records start.platform session.platform

namespace Session.Faithful

variable {start session changed : Session Store}

theorem refl (wellFormed : session.platform.WellFormed)
    (available : session.logbook.available = true) : Faithful session session :=
  ⟨wellFormed, available, [], (List.append_nil _).symm, .nil session.platform⟩

theorem set (faithful : Faithful start session)
    (containers : changed.platform.containers = session.platform.containers)
    (issued : changed.platform.issued = session.platform.issued)
    (logbook : changed.logbook = session.logbook) : Faithful start changed := by
  obtain ⟨wellFormed, available, records, recorded, replays⟩ := faithful
  refine ⟨wellFormed.of_containers_eq containers (Nat.le_of_eq issued.symm), ?_, records, ?_,
    replays.congr (Store.rulesAt_of_containers containers)⟩
  · rw [logbook, available]
  · rw [logbook, recorded]

theorem reconcile (desired : DesiredRule) : desired.Keeps (Faithful start) := by
  intro runId now zoneId session faithful
  obtain ⟨wellFormed, available, records, recorded, replays⟩ := faithful
  refine ((DesiredRule.reconcile_leads wellFormed).and
    (DesiredRule.reconcile_accounts available)).imp fun result after ends => ?_
  obtain ⟨⟨calls, advance, -⟩, accounts⟩ := ends
  obtain ⟨more, recorded', replays'⟩ := replays.accounts wellFormed accounts
  refine ⟨advance.edits.wellFormed wellFormed, accounts.available.trans available,
    records ++ more, ?_, replays'⟩
  rw [recorded', recorded, List.append_assoc]

end Session.Faithful

/-- The steps of a session: an entry or a list of entries is reconciled, a request is applied, and
in between whatever is not about containers and not about the logbook is set, such as the operations
that fail. -/
inductive Session.Works : Session Store → Session Store → Prop
  | done (session : Session Store) : Works session session
  | reconciled {session last : Session Store} (runId : RunId) (now : Timestamp) (zoneId : String)
      (desired : DesiredRule)
      (more : Works (onStore runId now (desired.reconcile zoneId) session).2 last) :
      Works session last
  | reconciledAll {session last : Session Store} (runId : RunId) (now : Timestamp)
      (zoneId : String) (entries : List DesiredRule)
      (more : Works (onStore runId now (DesiredRule.reconcileAll zoneId entries) session).2 last) :
      Works session last
  | applied {session last : Session Store} (runId : RunId) (now : Timestamp) (request : Request)
      (more : Works (onStore runId now request.apply session).2 last) : Works session last
  | set {session last : Session Store} (changed : Session Store)
      (containers : changed.platform.containers = session.platform.containers)
      (issued : changed.platform.issued = session.platform.issued)
      (logbook : changed.logbook = session.logbook) (more : Works changed last) :
      Works session last

namespace Session.Works

variable {start session last : Session Store}

theorem failing (operation : Operation)
    (more : Works { session with platform := session.platform.fail operation } last) :
    Works session last :=
  .set { session with platform := session.platform.fail operation } rfl rfl rfl more

private theorem restored (operation : Operation)
    (more : Works { session with platform := session.platform.restore operation } last) :
    Works session last :=
  .set { session with platform := session.platform.restore operation } rfl rfl rfl more

/-- A property that every entry keeps, and that does not depend on what may be set in between, is
kept by every session. -/
theorem keeps {inv : Session Store → Prop} (each : ∀ desired : DesiredRule, desired.Keeps inv)
    (fixed : ∀ session changed : Session Store,
      changed.platform.containers = session.platform.containers →
      changed.platform.issued = session.platform.issued →
      changed.logbook = session.logbook → inv session → inv changed)
    (works : Works session last) (holds : inv session) : inv last := by
  induction works with
  | done session => exact holds
  | reconciled runId now zoneId desired more ih =>
    exact ih (each desired runId now zoneId _ holds)
  | @reconciledAll session _ runId now zoneId entries more ih =>
    have kept : Leads runId now (DesiredRule.reconcileAll zoneId entries) session
        fun _ after => inv after :=
      DesiredRule.reconcileAll_keeps (fun desired _ => each desired) zoneId holds
    exact ih kept
  | @applied session _ runId now request more ih =>
    have kept : Leads runId now request.apply session fun _ after => inv after :=
      Request.apply_keeps (fun session call => fixed session (session.logged call) rfl rfl rfl)
        (fun _ _ _ _ desired _ => each desired) holds
    exact ih kept
  | set changed containers issued logbook more ih =>
    exact ih (fixed _ changed containers issued logbook holds)

private theorem faithful (works : Works session last) (faithful : Faithful start session) :
    Faithful start last :=
  works.keeps Faithful.reconcile
    (fun _ _ containers issued logbook faithful => faithful.set containers issued logbook) faithful

/-- After every session the identifiers of the rules of each container, in their order, are those it
had before, none if it did not exist, after the new records about it were replayed.  A rule that was
last written under a tag is the one with that tag, and has the expression that was recorded. -/
theorem journal_replays (wellFormed : start.platform.WellFormed)
    (available : start.logbook.available = true) (works : Works start last) :
    ∃ records, last.logbook.records = start.logbook.records ++ records ∧
      ∀ zoneId containerId,
        ChangeRecord.replay? zoneId containerId records
            ((start.platform.rulesAt zoneId containerId).map (·.id)) =
          some ((last.platform.rulesAt zoneId containerId).map (·.id)) ∧
        ∀ tag record, ChangeRecord.lastChange? zoneId containerId tag records = some record →
          record.outcome.isWritten = true →
            ∃ rule, (last.platform.rulesAt zoneId containerId).filter (·.tag == tag) = [rule] ∧
              record.expression = some rule.expression := by
  obtain ⟨-, -, records, recorded, replays⟩ := works.faithful (.refl wellFormed available)
  exact ⟨records, recorded, fun zoneId containerId =>
    ⟨replays.order zoneId containerId, replays.expressions zoneId containerId⟩⟩

def writtenSession : Session Store :=
  (onStore default default (DesiredRule.reconcileAll "zone" DesiredRule.sampleEntries)
    DesiredRule.sampleSession).2

/-- It goes on with an entry that fails, as no rule can be created. -/
def hinderedSession : Session Store :=
  (onStore default default ((plainEntry .whitelist "example.com").reconcile "zone")
    { writtenSession with platform := writtenSession.platform.fail .createRule }).2

/-- The same entry is reconciled once rules can be created again. -/
def resumedSession : Session Store :=
  (onStore default default ((plainEntry .whitelist "example.com").reconcile "zone")
    { hinderedSession with platform := hinderedSession.platform.restore .createRule }).2

theorem journal_replays_sample :
    (DesiredRule.sampleSession.platform.WellFormed ∧
      DesiredRule.sampleSession.logbook.available = true ∧
      Works DesiredRule.sampleSession resumedSession) ∧
    ∃ records, resumedSession.logbook.records =
        DesiredRule.sampleSession.logbook.records ++ records ∧
      ∀ zoneId containerId,
        ChangeRecord.replay? zoneId containerId records
            ((DesiredRule.sampleSession.platform.rulesAt zoneId containerId).map (·.id)) =
          some ((resumedSession.platform.rulesAt zoneId containerId).map (·.id)) ∧
        ∀ tag record, ChangeRecord.lastChange? zoneId containerId tag records = some record →
          record.outcome.isWritten = true →
            ∃ rule, (resumedSession.platform.rulesAt zoneId containerId).filter (·.tag == tag) =
                [rule] ∧
              record.expression = some rule.expression := by
  have resumed : Works hinderedSession resumedSession :=
    .restored .createRule <|
      .reconciled default default "zone" (plainEntry .whitelist "example.com") (.done _)
  have hindered : Works writtenSession resumedSession :=
    .failing .createRule <|
      .reconciled default default "zone" (plainEntry .whitelist "example.com") resumed
  have works : Works DesiredRule.sampleSession resumedSession :=
    .reconciledAll default default "zone" DesiredRule.sampleEntries hindered
  exact ⟨⟨DesiredRule.wellFormed_sampleSession, rfl, works⟩,
    journal_replays DesiredRule.wellFormed_sampleSession rfl works⟩

end Session.Works

end EdgePolicy
