import EdgePolicy.Apply
import EdgePolicy.CommandLine.Arguments
import EdgePolicy.CommandLine.Host
import EdgePolicy.Config.File
import EdgePolicy.Http.Client
import EdgePolicy.Journal.Chain
import EdgePolicy.Json.Reader

/-
Running a command.

Compiling and decompiling need no platform.  Applying a request and showing a view connect first,
with the configuration file and the token.  A journal is written when a request has been applied and
its reports have been printed.
-/

set_option autoImplicit false
set_option relaxedAutoImplicit false

namespace EdgePolicy.CommandLine

open Json (Document Value)

variable {m : Type → Type} [Monad m]

def settled {α : Type} (result : Except Error α) : ExceptT Error m α := ExceptT.mk (pure result)

def printLine (host : Host m) (text : String) : ExceptT Error m Unit :=
  ExceptT.lift (host.print (text ++ "\n"))

def printJson (host : Host m) (value : Value) : ExceptT Error m Unit :=
  printLine host value.indented

def readPayload {α : Type} (host : Host m) (decode : Document → Option α) (path : String) :
    ExceptT Error m α := do
  match ← ExceptT.lift (host.read path) with
  | .error fault => settled (.error (.payload (.unreadable path fault)))
  | .ok contents =>
    match (Document.ofText? contents).bind decode with
    | some payload => return payload
    | none => settled (.error (.payload (.malformed path)))

/-- Read the configuration file; a missing file sets nothing. -/
def readConfig (host : Host m) (path : String) : ExceptT Error m FileConfig := do
  match ← ExceptT.lift (host.read path) with
  | .ok contents => settled ((FileConfig.ofText contents).mapError .configuration)
  | .error .missing => return .empty
  | .error .notDirectory => return .empty
  | .error fault => settled (.error (.configuration (.unreadable path fault)))

def connect (host : Host m) (path : String) : ExceptT Error m Http.Client := do
  let file ← readConfig host path
  let token ← ExceptT.lift (host.valueOf file.tokenName)
  let configuration ← settled ((file.configuration token).mapError .configuration)
  settled ((Http.Client.of configuration).mapError .configuration)

/-- Answer the calls of one run through a client and append its decisions to a journal. -/
def handler (host : Host m) (client : Http.Client) (runId : RunId) :
    Procedure.Handler (StateT Journal m) where
  answer call := StateT.lift (client.answer host.link call)
  record decision journal := do
    return (.ok (), journal.append (decision.record runId (← host.now)))

/-- Carry out a procedure as one run; the journal is kept whether or not it fails. -/
def carryOut {α : Type} (host : Host m) (client : Http.Client) (procedure : Procedure α) :
    m (Except Error α × Journal) := do
  let runId ← host.freshRun
  let processId ← host.processId
  (procedure.run (handler host client runId)).run (.empty s!"edgeward-{processId}")

def writeJournal (host : Host m) (journal : Journal) (path : String) : ExceptT Error m Unit := do
  let now ← ExceptT.lift host.now
  match ← ExceptT.lift (host.write path (journal.json now).indented) with
  | .ok () => return ()
  | .error fault => settled (.error (.journal (.unwritable path fault)))

def Arguments.run (host : Host m) (arguments : Arguments) : ExceptT Error m Unit :=
  match arguments.command with
  | .compile domain file => do
    let conditions ← readPayload host (Document.list? Condition.ofJson?) file
    let expression ← settled
      ((Expression.compile (Group.partition conditions) domain).mapError .condition)
    printLine host expression
  | .decompile expression => do
    let decompiled ← settled ((Expression.decompile expression).mapError .expression)
    printJson host decompiled.json
  | .apply kind file journalPath => do
    let client ← connect host arguments.config
    let request ← readPayload host (Request.ofJson? · kind) file
    let (reports, journal) ← ExceptT.lift (carryOut host client request.apply)
    printJson host (.array ((← settled reports).map Report.json))
    match journalPath with
    | some path => writeJournal host journal path
    | none => return ()
  | .view kind zones => do
    let client ← connect host arguments.config
    let (view, _) ← ExceptT.lift (carryOut host client (View.read zones kind))
    printJson host (← settled view).json

def programName : String := "edgeward"

def usage : String :=
  "Usage: edgeward [--config <CONFIG>] <COMMAND>\n\nCommands:\n"
    ++ "  compile    --domain <DOMAIN> --file <FILE>\n"
    ++ "  decompile  --expression <EXPRESSION>\n"
    ++ "  apply      --kind <KIND> --file <FILE> [--journal <JOURNAL>]\n"
    ++ "  show       --kind <KIND> --zone <ZONE>...\n"

/-- Run the command of some arguments; the result is the exit status. -/
def run (host : Host m) (arguments : List String) : m UInt32 := do
  match Arguments.ofList? arguments with
  | none =>
    host.complain usage
    return 2
  | some arguments =>
    match ← (arguments.run host).run with
    | .ok () => return 0
    | .error error =>
      host.complain s!"{programName}: {error.message}\n"
      return 1

end EdgePolicy.CommandLine
