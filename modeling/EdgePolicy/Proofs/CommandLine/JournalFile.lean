import EdgePolicy.CommandLine.Run
import EdgePolicy.Proofs.Reconcile.Decisions

/-
The journal file of a request that is applied from the command line.

A run over a link takes the course that its answers give, and its journal holds the decisions of
that course (`carryOut_eq`).  A run that succeeds writes them all into the file that was asked for;
a run that fails leaves the files as they were, whatever it has changed by then
(`journal_of_apply`).
-/

set_option autoImplicit false
set_option relaxedAutoImplicit false

namespace EdgePolicy

namespace Http

variable {m : Type → Type} [Monad m] [LawfulMonad m] {σ α ε : Type}

private theorem Retry.attemptFrom_lift (pause : Nat → m Unit) (once : m (Except ε α)) (state : σ)
    (index retries : Nat) :
    (attemptFrom (fun milliseconds => StateT.lift (pause milliseconds)) (StateT.lift once)
        index retries : StateT σ m (Except ε α)).run state =
      attemptFrom pause once index retries >>= fun result => pure (result, state) := by
  induction retries generalizing index with
  | zero => rfl
  | succ retries ih =>
    rw [attemptFrom, attemptFrom, StateT.run_bind, StateT.run_lift]
    simp only [bind_assoc, pure_bind]
    refine bind_congr fun result => ?_
    cases result with
    | ok value => rw [pure_bind]; rfl
    | error fault =>
      rw [StateT.run_bind, StateT.run_lift]
      simp only [bind_assoc, pure_bind]
      exact bind_congr fun _ => ih _

private theorem Client.sendOnce_lift (link : Link m) (client : Client) (call : Call) :
    sendOnce (link.lift : Link (StateT σ m)) client call =
      StateT.lift (sendOnce link client call) := by
  refine StateT.ext fun state => ?_
  unfold sendOnce Link.lift
  cases client.address call with
  | error cause => simp
  | ok url =>
    simp only [StateT.run_bind, StateT.run_lift, bind_assoc, pure_bind]
    refine bind_congr fun response? => ?_
    cases response? <;> simp

private theorem Client.answer_lift (link : Link m) (client : Client) (call : Call) (state : σ) :
    (client.answer (link.lift : Link (StateT σ m)) call).run state =
      client.answer link call >>= fun reply => pure (reply, state) := by
  have attempts : (Retry.attempt (link.lift : Link (StateT σ m)).pause client.maxRetries
      (StateT.lift (sendOnce link client call))).run state =
        Retry.attempt link.pause client.maxRetries (sendOnce link client call) >>= fun result =>
          pure (result, state) :=
    Retry.attemptFrom_lift link.pause (sendOnce link client call) state 0 client.maxRetries
  unfold answer
  rw [sendOnce_lift, StateT.run_bind, attempts]
  simp only [bind_assoc, pure_bind]
  refine bind_congr fun result => ?_
  cases result <;> simp

end Http

namespace CommandLine

variable {σ α β : Type}

/-- How an action ends in surroundings held in memory, over a link with a state. -/
def finish (action : ExceptT Error (StateT Workspace (StateM σ)) α) (workspace : Workspace)
    (state : σ) : (Except Error α × Workspace) × σ :=
  (action.run.run workspace).run state

private theorem finish_bind (action : ExceptT Error (StateT Workspace (StateM σ)) α)
    (f : α → ExceptT Error (StateT Workspace (StateM σ)) β) (workspace : Workspace) (state : σ) :
    finish (action >>= f) workspace state =
      match finish action workspace state with
      | ((.ok value, workspace'), state') => finish (f value) workspace' state'
      | ((.error fault, workspace'), state') => ((.error fault, workspace'), state') := by
  have step : finish (action >>= f) workspace state =
      ((ExceptT.bindCont f (finish action workspace state).1.1).run
        (finish action workspace state).1.2).run (finish action workspace state).2 := rfl
  rw [step]
  rcases finish action workspace state with ⟨⟨_ | _, workspace'⟩, state'⟩ <;> rfl

private theorem finish_lift (action : StateT Workspace (StateM σ) α) (workspace : Workspace)
    (state : σ) :
    finish (ExceptT.lift action) workspace state =
      ((.ok ((action.run workspace).run state).1.1, ((action.run workspace).run state).1.2),
        ((action.run workspace).run state).2) :=
  rfl

def Reads (action : ExceptT Error (StateT Workspace (StateM σ)) α) : Prop :=
  ∀ workspace state, (finish action workspace state).1.2 = workspace ∧
    (finish action workspace state).2 = state

namespace Reads

theorem settled (result : Except Error α) :
    Reads (CommandLine.settled result : ExceptT Error (StateT Workspace (StateM σ)) α) :=
  fun _ _ => ⟨rfl, rfl⟩

theorem bind {action : ExceptT Error (StateT Workspace (StateM σ)) α}
    {f : α → ExceptT Error (StateT Workspace (StateM σ)) β} (first : Reads action)
    (second : ∀ value, Reads (f value)) : Reads (action >>= f) := by
  intro workspace state
  obtain ⟨workspaces, states⟩ := first workspace state
  rw [finish_bind]
  rcases reached : finish action workspace state with ⟨⟨_ | value, workspace'⟩, state'⟩
  all_goals
    rw [reached] at workspaces states
    subst workspaces states
  · exact ⟨rfl, rfl⟩
  · exact second value _ _

variable (link : Http.Link (StateM σ))

theorem read (path : String) :
    Reads (ExceptT.lift ((Workspace.host link).read path) : ExceptT Error _ _) :=
  fun _ _ => ⟨rfl, rfl⟩

theorem valueOf (name : String) :
    Reads (ExceptT.lift ((Workspace.host link).valueOf name) : ExceptT Error _ _) :=
  fun _ _ => ⟨rfl, rfl⟩

theorem readPayload {α : Type} (decode : Json.Document → Option α) (path : String) :
    Reads (CommandLine.readPayload (Workspace.host link) decode path) := by
  refine (read link path).bind fun contents => ?_
  cases contents with
  | error fault => exact settled _
  | ok contents =>
    dsimp only
    cases (Json.Document.ofText? contents).bind decode with
    | some payload => exact settled (.ok payload)
    | none => exact settled _

theorem readConfig (path : String) :
    Reads (CommandLine.readConfig (Workspace.host link) path) := by
  refine (read link path).bind fun contents => ?_
  cases contents with
  | ok contents => exact settled _
  | error fault =>
    cases fault with
    | missing | notDirectory => exact settled (.ok FileConfig.empty)
    | _ => exact settled _

theorem connect (path : String) : Reads (CommandLine.connect (Workspace.host link) path) :=
  (readConfig link path).bind fun _ => (valueOf link _).bind fun _ =>
    (settled _).bind fun _ => settled _

end Reads

end CommandLine

/-- How a client answers calls over a link with a state. -/
def Http.Client.answers {σ : Type} (link : Link (StateM σ)) (client : Client) : Session.Answers σ :=
  fun call state => (client.answer link call).run state

namespace CommandLine

variable {σ α : Type} {link : Http.Link (StateM σ)} {client : Http.Client}

private theorem run_handler (runId : RunId) (procedure : Procedure α) (journal : Journal)
    (workspace : Workspace) (state : σ) :
    (((procedure.run (handler (Workspace.host link) client runId)).run journal).run
        workspace).run state =
      (let course := procedure.course (client.answers link) state
       (((course.result, journal.appendAll (course.decisions.map (·.record runId .epoch))),
          workspace), course.state)) := by
  induction procedure generalizing journal state with
  | done result => rfl
  | ask call next ih =>
    have answered : ((client.answer (Workspace.host link).link call).run workspace).run state =
        (((client.answers link call state).1, workspace), (client.answers link call state).2) :=
      congrFun (Http.Client.answer_lift link client call workspace) state
    have step : (((Procedure.run (handler (Workspace.host link) client runId)
        (.ask call next)).run journal).run workspace).run state =
      (fun answer => ((((next answer.1.1).run (handler (Workspace.host link) client runId)).run
        journal).run answer.1.2).run answer.2)
        (((client.answer (Workspace.host link).link call).run workspace).run state) := rfl
    rw [step, answered]
    exact ih _ _ _
  | note decision next ih => 
    exact ih _ _

/-- A run takes the course that the answers of its client give, and keeps the decisions of it in
its journal, whether or not it fails. -/
theorem carryOut_eq (procedure : Procedure α) (workspace : Workspace) (state : σ) :
    ((carryOut (Workspace.host link) client procedure).run workspace).run state =
      (let course := procedure.course (client.answers link) state
       (((course.result, (Journal.empty s!"edgeward-{1}").appendAll
            (course.decisions.map (·.record ⟨BitVec.ofNat 128 workspace.runs⟩ .epoch))),
          { workspace with runs := workspace.runs + 1 }), course.state)) :=
  run_handler ⟨BitVec.ofNat 128 workspace.runs⟩ procedure (.empty s!"edgeward-{1}")
    { workspace with runs := workspace.runs + 1 } state

namespace Workspace

variable {workspace other : Workspace} {path : String}

private theorem write_of_files (writable : (workspace.write path "").1 = .ok ())
    (same : other.files = workspace.files) (contents : String) :
    other.write path contents = (.ok (), { other with
      files := (route path, contents) :: workspace.files.filter (·.1 != route path) }) := by
  have passes : ∀ way, other.passesFile way = workspace.passesFile way := fun way => by
    rw [passesFile, passesFile, same]
  have directory : ∀ way, other.isDirectory way = workspace.isDirectory way := fun way => by
    rw [isDirectory, isDirectory, same]
  simp only [write, passes, directory, same] at writable ⊢
  split_ifs at writable ⊢
  rfl

/-- The file at a path is the export of a journal of some decisions of a run. -/
def HoldsJournal (workspace : Workspace) (path : String) (runId : RunId)
    (decisions : List Decision) : Prop :=
  ∃ id, workspace.files.lookup (route path) =
    some (((Journal.empty id).appendAll (decisions.map (·.record runId .epoch))).json
      .epoch).indented

end Workspace

private theorem Reads.finish_eq {action : ExceptT Error (StateT Workspace (StateM σ)) α}
    (reads : Reads action) {workspace : Workspace} {state : σ} {result : Except Error α}
    (reached : (finish action workspace state).1.1 = result) :
    finish action workspace state = ((result, workspace), state) :=
  Prod.ext (Prod.ext reached (reads workspace state).1) (reads workspace state).2

private theorem finish_writeJournal {journal : Journal} {path : String}
    {workspace after : Workspace}
    (written : workspace.write path (journal.json .epoch).indented = (.ok (), after))
    (state : σ) :
    finish (writeJournal (Workspace.host link) journal path) workspace state =
      ((.ok (), after), state) := by
  have now : finish (ExceptT.lift (Workspace.host link).now) workspace state =
      ((.ok .epoch, workspace), state) := rfl
  have write : ∀ contents, finish (ExceptT.lift ((Workspace.host link).write path contents))
      workspace state = ((.ok (workspace.write path contents).1,
        (workspace.write path contents).2), state) := fun _ => rfl
  unfold writeJournal
  rw [finish_bind, now]
  dsimp only
  rw [finish_bind, write, written]
  rfl

section Apply

variable {request : Request} {workspace : Workspace} {state : σ} {config file path : String}
  {kind : Request.Kind}

/-- A request is applied once there is a client and the payload is read; the journal is written
after a course that succeeds. -/
private theorem finish_apply
    (connects : (finish (connect (Workspace.host link) config) workspace state).1.1 = .ok client)
    (given : (finish (readPayload (Workspace.host link) (Request.ofJson? · kind) file) workspace
      state).1.1 = .ok request) :
    finish (Arguments.run (Workspace.host link) ⟨config, .apply kind file (some path)⟩) workspace
        state =
      (let course := request.apply.course (client.answers link) state
       let journal := (Journal.empty s!"edgeward-{1}").appendAll
        (course.decisions.map (·.record ⟨BitVec.ofNat 128 workspace.runs⟩ .epoch))
       let after := { workspace with runs := workspace.runs + 1 }
       match course.result with
       | .ok reports => finish (do
          printJson (Workspace.host link) (.array (reports.map Report.json))
          writeJournal (Workspace.host link) journal path) after course.state
       | .error fault => ((.error fault, after), course.state)) := by
  have connected := (Reads.connect link config).finish_eq connects
  have read := (Reads.readPayload link (Request.ofJson? · kind) file).finish_eq given
  unfold Arguments.run
  dsimp only
  rw [finish_bind, connected]
  dsimp only
  rw [finish_bind, read]
  dsimp only
  rw [finish_bind, finish_lift, carryOut_eq]
  dsimp only
  rw [finish_bind]
  cases (request.apply.course (client.answers link) state).result <;> rfl

/-- The file that was asked for holds the decisions of a run that succeeds.  A run that fails leaves
the files as they were.  Either way the decisions tell all changes of rules that the client has
returned as done; a change whose call ends in a fault is not among them, whatever it did. -/
theorem journal_of_apply
    (connects : (finish (connect (Workspace.host link) config) workspace state).1.1 = .ok client)
    (given : (finish (readPayload (Workspace.host link) (Request.ofJson? · kind) file) workspace
      state).1.1 = .ok request)
    (writable : (workspace.write path "").1 = .ok ()) :
    let course := request.apply.course (client.answers link) state
    let after := (finish (Arguments.run (Workspace.host link)
      ⟨config, .apply kind file (some path)⟩) workspace state).1
    course.changes = course.decisions.filterMap Decision.change? ∧
      match course.result with
      | .ok _ => after.1 = .ok () ∧
        after.2.HoldsJournal path ⟨BitVec.ofNat 128 workspace.runs⟩ course.decisions
      | .error fault => after.1 = .error fault ∧ after.2.files = workspace.files := by
  refine ⟨(Request.candid_apply request).told _ _, ?_⟩
  rw [finish_apply connects given]
  generalize request.apply.course (client.answers link) state = course
  obtain ⟨result, decisions, changes, state'⟩ := course
  cases result with
  | error fault => exact ⟨rfl, rfl⟩
  | ok reports =>
    obtain ⟨after, printed, files⟩ : ∃ after : Workspace,
        finish (printJson (Workspace.host link) (.array (reports.map Report.json)))
          { workspace with runs := workspace.runs + 1 } state' = ((.ok (), after), state') ∧
        after.files = workspace.files :=
      ⟨_, rfl, rfl⟩
    dsimp only
    rw [finish_bind, printed]
    dsimp only
    rw [finish_writeJournal (Workspace.write_of_files writable files _)]
    exact ⟨rfl, _, List.lookup_cons_self⟩

end Apply

/-- Two hosts that block an address. -/
def samplePayload : Json.Value :=
  .object [("subdomains", .array [
      .object [("zone", .string "a.io"), ("name", .string "www.a.io")],
      .object [("zone", .string "b.io"), ("name", .string "www.b.io")]]),
    ("blackIpList", .array [.string "203.0.113.7"])]

def sampleWorkspace : Workspace :=
  .of [("edgeward.toml", "[cloudflare]\nbase_url = \"http://[::1]\"\nmax_retries = 0\n"),
    ("payload.json", samplePayload.compact)] [("CLOUDFLARE_API_TOKEN", "token")]

def sampleClient : Http.Client := ⟨"http://[::1]", "Bearer token", 0⟩

def sampleRequest : Request :=
  .blacklist ⟨[⟨"a.io", "www.a.io"⟩, ⟨"b.io", "www.b.io"⟩], ["203.0.113.7"]⟩

def answered (result : Json.Value) : Option Http.Response :=
  some ⟨200, some (Json.Value.object [("success", .bool true), ("result", result)]).compact⟩

/-- The answers about one host, in whose zone a rule with a tag is created. -/
def sampleAnswers (tag : String) : List (Option Http.Response) :=
  [answered (.array [.object [("id", .string "zone")]]),
    answered (.array [.object [("id", .string "container"),
      ("phase", .string "http_request_firewall_custom"), ("kind", .string "zone")]]),
    answered (.object [("id", .string "container")]),
    answered (.object [("id", .string "container"), ("rules", .array [.object
      [("id", .string "rule"), ("description", .string tag), ("action", .string "block"),
        ("expression", .string "")]])])]

/-- The connection breaks before the second host. -/
def brokenScript : Http.Link.Script := ⟨sampleAnswers "black_ip_www.a.io", []⟩

private theorem sample_ready :
    (finish (connect (Workspace.host .scripted) "edgeward.toml") sampleWorkspace
        brokenScript).1.1 = .ok sampleClient ∧
      (finish (readPayload (Workspace.host .scripted) (Request.ofJson? · .blacklist)
        "payload.json") sampleWorkspace brokenScript).1.1 = .ok sampleRequest ∧
      (sampleWorkspace.write "journal.json" "").1 = .ok () := by
  refine ⟨?_, ?_, ?_⟩ <;> decide +kernel

theorem journal_of_apply_sample :
    ((finish (connect (Workspace.host .scripted) "edgeward.toml") sampleWorkspace
        brokenScript).1.1 = .ok sampleClient ∧
      (finish (readPayload (Workspace.host .scripted) (Request.ofJson? · .blacklist)
        "payload.json") sampleWorkspace brokenScript).1.1 = .ok sampleRequest ∧
      (sampleWorkspace.write "journal.json" "").1 = .ok ()) ∧
    let course := sampleRequest.apply.course (sampleClient.answers .scripted) brokenScript
    let after := (finish (Arguments.run (Workspace.host .scripted)
      ⟨"edgeward.toml", .apply .blacklist "payload.json" (some "journal.json")⟩) sampleWorkspace
        brokenScript).1
    course.changes = course.decisions.filterMap Decision.change? ∧
      match course.result with
      | .ok _ => after.1 = .ok () ∧
        after.2.HoldsJournal "journal.json" ⟨BitVec.ofNat 128 sampleWorkspace.runs⟩
          course.decisions
      | .error fault => after.1 = .error fault ∧ after.2.files = sampleWorkspace.files := by
  obtain ⟨connects, given, writable⟩ := sample_ready
  have applied := journal_of_apply connects given writable
  exact ⟨⟨connects, given, writable⟩, applied⟩

/-- A rule was created for the first host when the run failed at the second, and no journal says
so. -/
theorem journal_not_written :
    ((finish (connect (Workspace.host .scripted) "edgeward.toml") sampleWorkspace
        brokenScript).1.1 = .ok sampleClient ∧
      (finish (readPayload (Workspace.host .scripted) (Request.ofJson? · .blacklist)
        "payload.json") sampleWorkspace brokenScript).1.1 = .ok sampleRequest ∧
      (sampleWorkspace.write "journal.json" "").1 = .ok ()) ∧
    let course := sampleRequest.apply.course (sampleClient.answers .scripted) brokenScript
    let after := (finish (Arguments.run (Workspace.host .scripted)
      ⟨"edgeward.toml", .apply .blacklist "payload.json" (some "journal.json")⟩) sampleWorkspace
        brokenScript).1
    course.changes = [⟨"zone", "container", .created "rule" none⟩] ∧
      ¬ after.2.HoldsJournal "journal.json" ⟨BitVec.ofNat 128 sampleWorkspace.runs⟩
        course.decisions := by
  obtain ⟨connects, given, writable⟩ := sample_ready
  have taken : ((sampleRequest.apply.course (sampleClient.answers .scripted) brokenScript).changes,
      (sampleRequest.apply.course (sampleClient.answers .scripted) brokenScript).result.isOk) =
        ([⟨"zone", "container", .created "rule" none⟩], false) := by
    decide +kernel
  obtain ⟨changes, failed⟩ := Prod.mk.inj taken
  refine ⟨⟨connects, given, writable⟩, changes, ?_⟩
  rw [finish_apply connects given]
  generalize sampleRequest.apply.course (sampleClient.answers .scripted) brokenScript = course
    at failed ⊢
  obtain ⟨result, decisions, changed, state⟩ := course
  cases result with
  | ok reports => nomatch failed
  | error fault =>
    have absent : sampleWorkspace.files.lookup (route "journal.json") = none := by
      decide +kernel
    rintro ⟨id, held⟩
    exact Option.some_ne_none _ (held.symm.trans absent)

end CommandLine

end EdgePolicy
