import EdgePolicy.Http.Message
import EdgePolicy.Journal.RunId
import EdgePolicy.Journal.Timestamp
import EdgePolicy.Payload.Fault

/-
What a run of the command line needs from its surroundings, and surroundings held in memory.

Files are named by paths; in memory, a path is resolved from an empty directory, and whatever has a
file below it is a directory.
-/

set_option autoImplicit false
set_option relaxedAutoImplicit false

namespace EdgePolicy.CommandLine

/-- The surroundings of a run. -/
structure Host (m : Type → Type) where
  read : (path : String) → m (Except FileFault String)
  write : (path contents : String) → m (Except FileFault Unit)
  valueOf : (name : String) → m (Option String)
  link : Http.Link m
  now : m Timestamp
  freshRun : m RunId
  processId : m Nat
  print : String → m Unit
  complain : String → m Unit

/-- A path from a directory, as the names on the way. -/
abbrev Route := List String

/-- Go along the segments of a path: a point stays and two points go back. -/
def walk : Route → List String → Route
  | route, [] => route
  | route, segment :: rest =>
    if segment == "" || segment == "." then walk route rest
    else if segment == ".." then walk route.dropLast rest
    else walk (route ++ [segment]) rest

def route (path : String) : Route :=
  walk [] ((path.toList.splitOn '/').map String.ofList)

/-- Surroundings held in memory: a directory, an environment, and what has been printed. -/
structure Workspace where
  files : List (Route × String)
  environment : List (String × String)
  printed : String
  complained : String
  runs : Nat
deriving Repr, Inhabited

namespace Workspace

def of (files environment : List (String × String)) : Workspace where
  files := files.map fun file => (route file.1, file.2)
  environment := environment
  printed := ""
  complained := ""
  runs := 0

/-- A file lies on the way, so the way leads nowhere. -/
def passesFile (workspace : Workspace) (way : Route) : Bool :=
  workspace.files.any fun file => file.1.isPrefixOf way && file.1 != way

def isDirectory (workspace : Workspace) (way : Route) : Bool :=
  way.isEmpty || workspace.files.any fun file => way.isPrefixOf file.1 && file.1 != way

def asksDirectory (path : String) : Bool := path.endsWith "/" || path.endsWith "/."

def read (workspace : Workspace) (path : String) : Except FileFault String :=
  let way := route path
  if path.startsWith "/" then .error .missing
  else if workspace.passesFile way then .error .notDirectory
  else if workspace.isDirectory way then .error .isDirectory
  else match workspace.files.lookup way with
    | some contents => if asksDirectory path then .error .notDirectory else .ok contents
    | none => .error .missing

def write (workspace : Workspace) (path contents : String) :
    Except FileFault Unit × Workspace :=
  let way := route path
  if path.startsWith "/" then (.error .missing, workspace)
  else if workspace.passesFile way then (.error .notDirectory, workspace)
  else if workspace.isDirectory way || asksDirectory path then (.error .isDirectory, workspace)
  else if !workspace.isDirectory way.dropLast then (.error .missing, workspace)
  else
    (.ok (), { workspace with
      files := (way, contents) :: workspace.files.filter (·.1 != way) })

/-- A run in surroundings held in memory, over a link that does not reach them.  Time stands still
and runs are numbered. -/
def host {m : Type → Type} [Monad m] (link : Http.Link m) : Host (StateT Workspace m) where
  read path workspace := pure (workspace.read path, workspace)
  write path contents workspace := pure (workspace.write path contents)
  valueOf name workspace := pure (workspace.environment.lookup name, workspace)
  link := link.lift
  now := pure .epoch
  freshRun workspace :=
    pure (⟨BitVec.ofNat 128 workspace.runs⟩, { workspace with runs := workspace.runs + 1 })
  processId := pure 1
  print text workspace := pure ((), { workspace with printed := workspace.printed ++ text })
  complain text workspace :=
    pure ((), { workspace with complained := workspace.complained ++ text })

end Workspace

end EdgePolicy.CommandLine
