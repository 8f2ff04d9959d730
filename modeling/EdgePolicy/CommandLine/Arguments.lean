import EdgePolicy.Payload.Request
import EdgePolicy.View

/-
Command-line arguments.

A command follows the options that stand before it and is followed by its own options.  Every option
takes a value, either as the next argument or behind an equals sign; the next argument is no value
when it starts like an option.  An option may be given once, except for one that collects values.
-/

set_option autoImplicit false
set_option relaxedAutoImplicit false

namespace EdgePolicy.CommandLine

inductive Command where
  | compile (domain file : String)
  | decompile (expression : String)
  | apply (kind : Request.Kind) (file : String) (journal : Option String)
  | view (kind : View.Kind) (zones : List String)
deriving DecidableEq, Repr

structure Arguments where
  config : String
  command : Command
deriving DecidableEq, Repr

def defaultConfig : String := "edgeward.toml"

def requestKinds : List (String × Request.Kind) :=
  [("blacklist", .blacklist), ("whitelist", .whitelist), ("country", .country),
    ("known-bot", .knownBot), ("verified-bot", .verifiedBot), ("custom", .custom),
    ("cache", .cache), ("ddos", .ddos), ("delete-subdomain", .teardown)]

def viewKinds : List (String × View.Kind) :=
  [("waf", .waf), ("bot", .bot), ("custom", .custom), ("cache", .cache), ("ddos", .ddos)]

abbrev Options := List (String × String)

def isOptionLike (argument : String) : Bool :=
  argument.startsWith "-" && argument != "-"

/-- The name of an option and the value behind its equals sign, if there is one. -/
def option? (argument : String) : Option (String × Option String) :=
  match argument.toList with
  | '-' :: '-' :: cs =>
    let name := cs.takeWhile (· != '=')
    match cs.drop name.length with
    | _ :: value => some (String.ofList name, some (String.ofList value))
    | [] => some (String.ofList name, none)
  | _ => none

/-- Take options with known names off the front of some arguments. -/
def takeOptions? (names : List String) : List String → Option (Options × List String)
  | [] => some ([], [])
  | argument :: rest =>
    if argument == "--" || !isOptionLike argument then some ([], argument :: rest)
    else match option? argument with
      | none => none
      | some (name, given) =>
        if !names.contains name then none
        else match given, rest with
          | some value, rest => do
            let (options, rest) ← takeOptions? names rest
            return ((name, value) :: options, rest)
          | none, value :: rest => do
            if isOptionLike value then none
            let (options, rest) ← takeOptions? names rest
            return ((name, value) :: options, rest)
          | none, [] => none

namespace Options

def values (options : Options) (name : String) : List String :=
  (options.filter (·.1 == name)).map (·.2)

def optional? (options : Options) (name : String) : Option (Option String) :=
  match options.values name with
  | [] => some none
  | [value] => some (some value)
  | _ => none

def required? (options : Options) (name : String) : Option String := do
  ← options.optional? name

/-- An option that names a file may be given once and is not empty. -/
def optionalPath? (options : Options) (name : String) : Option (Option String) := do
  let value ← options.optional? name
  if value = some "" then none else some value

/-- An option that names a file and must be given. -/
def requiredPath? (options : Options) (name : String) : Option String := do
  ← options.optionalPath? name

end Options

def optionNames (command : String) : Option (List String) :=
  [("compile", ["domain", "file"]), ("decompile", ["expression"]),
    ("apply", ["kind", "file", "journal"]), ("show", ["kind", "zone"])].lookup command

def command? (command : String) (options : Options) : Option Command :=
  if command = "compile" then do
    return .compile (← options.required? "domain") (← options.requiredPath? "file")
  else if command = "decompile" then do
    return .decompile (← options.required? "expression")
  else if command = "apply" then do
    return .apply (← requestKinds.lookup (← options.required? "kind"))
      (← options.requiredPath? "file") (← options.optionalPath? "journal")
  else if command = "show" then do
    let zones := options.values "zone"
    if zones.isEmpty then none
    return .view (← viewKinds.lookup (← options.required? "kind")) zones
  else none

def configOption : String := "config"

/-- Read arguments.  An option of all commands counts most behind the command. -/
def Arguments.ofList? (arguments : List String) : Option Arguments := do
  let (outer, rest) ← takeOptions? [configOption] arguments
  match rest with
  | [] => none
  | name :: rest =>
    let (inner, rest) ← takeOptions? (configOption :: (← optionNames name)) rest
    if !(rest.isEmpty || rest == ["--"]) then none
    let before ← outer.optionalPath? configOption
    let behind ← inner.optionalPath? configOption
    return {
      config := (behind.orElse fun _ => before).getD defaultConfig
      command := ← command? name inner }

end EdgePolicy.CommandLine
