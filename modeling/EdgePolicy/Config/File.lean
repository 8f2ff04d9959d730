import EdgePolicy.Config.Toml
import EdgePolicy.Http.Configuration

/-
The configuration file.

The file has one table, whose settings are all optional; anything else in it is refused.  The token
is never in the file, only the name of the variable that holds it.
-/

set_option autoImplicit false
set_option relaxedAutoImplicit false

namespace EdgePolicy

open Toml (Key Statement)

structure FileConfig where
  baseUrl : Option String
  timeoutSeconds : Option Nat
  maxRetries : Option Nat
  tokenVariable : Option String
deriving DecidableEq, Repr, Inhabited

namespace FileConfig

def empty : FileConfig := ⟨none, none, none, none⟩

def tableName : String := "cloudflare"

def settingNames : List String := ["base_url", "timeout_secs", "max_retries", "api_token_env"]

abbrev Settings := List (String × Toml.Value)

/-- How the table has been defined so far. -/
inductive Definition where
  | missing
  | byPoints
  | whole
deriving DecidableEq, Repr

def setting? : Key × Toml.Value → Option (String × Toml.Value)
  | ([name], value) => some (name, value)
  | _ => none

def sectionSettings? : List Statement → Option Settings
  | [] => some []
  | .assign key value :: rest => do return (← setting? (key, value)) :: (← sectionSettings? rest)
  | .header _ :: _ => none

/-- The settings of statements, given how the table has been defined before them.  The table is
written under its header, between braces, or setting by setting, and in one of these ways only. -/
def settings? : Definition → List Statement → Option Settings
  | _, [] => some []
  | definition, .header key :: rest =>
    if key = [tableName] ∧ definition = .missing then sectionSettings? rest else none
  | definition, .assign (table :: key) value :: rest =>
    if table ≠ tableName then none
    else match key, value, definition with
      | [], .table entries, .missing => do
        return (← entries.mapM setting?) ++ (← settings? .whole rest)
      | [name], value, .missing | [name], value, .byPoints => do
        return (name, value) :: (← settings? .byPoints rest)
      | _, _, _ => none
  | _, .assign [] _ :: _ => none

def text? : Toml.Value → Option String
  | .string s => some s
  | _ => none

/-- A setting that is a number of at most `bound`. -/
def natural? (bound : Nat) : Toml.Value → Option Nat
  | .integer n => if 0 ≤ n ∧ n ≤ bound then some n.toNat else none
  | _ => none

def optional? {α : Type} (settings : Settings) (name : String) (decode : Toml.Value → Option α) :
    Option (Option α) :=
  match settings.lookup name with
  | none => some none
  | some value => (decode value).map some

def ofSettings? (settings : Settings) : Option FileConfig := do
  let names := settings.map (·.1)
  if !(names.all settingNames.contains && names.eraseDups.length == names.length) then none
  return {
    baseUrl := ← optional? settings "base_url" text?
    timeoutSeconds := ← optional? settings "timeout_secs" (natural? Text.maxWord64)
    maxRetries := ← optional? settings "max_retries" (natural? Text.maxWord32)
    tokenVariable := ← optional? settings "api_token_env" text? }

def ofText (s : String) : Except ConfigurationFault FileConfig :=
  match ((Toml.ofText? s).bind (settings? .missing)).bind ofSettings? with
  | some file => .ok file
  | none => .error .malformed

def tokenName (file : FileConfig) : String :=
  file.tokenVariable.getD Http.Configuration.tokenVariable

/-- The configuration of a file with the value of the variable that holds the token. -/
def configuration (file : FileConfig) (token : Option String) :
    Except ConfigurationFault Http.Configuration := do
  let some token := token.filter fun token => !Text.isBlankText token
    | .error (.missingToken file.tokenName)
  let base ← Http.Configuration.of (file.baseUrl.getD Http.Configuration.defaultBaseUrl) token
  return { base with
    timeoutSeconds := file.timeoutSeconds.getD base.timeoutSeconds
    maxRetries := file.maxRetries.getD base.maxRetries }

end FileConfig

end EdgePolicy
