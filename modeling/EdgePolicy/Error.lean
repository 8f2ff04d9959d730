import EdgePolicy.Payload.Fault
import EdgePolicy.Zone.Rule

/-
Why an operation fails.

Every failure names its cause; `Error.message` words it.  A failure of the platform also names the
endpoint of the call and, when there was an answer, its status.
-/

set_option autoImplicit false
set_option relaxedAutoImplicit false

namespace EdgePolicy

/-- What was wrong with a call to the platform or with its answer. -/
inductive RemoteCause where
  | reported (text : String)
  | injected (operation : String)
  | noContainer
  | noRule
  | unknownAnchor (ruleId : String)
  | lostRace
  | unsent (url : String)
  | unsendable (url : Option String)
  | unreadableBody
  | unexpectedShape
  | unsuccessful
  | noResult
  | ruleNotReturned
deriving DecidableEq, Repr

def RemoteCause.message : RemoteCause → String
  | reported text => text
  | injected operation => s!"injected {operation} failure"
  | noContainer => "ruleset not found"
  | noRule => "rule not found"
  | unknownAnchor ruleId => s!"position references unknown rule {ruleId}"
  | lostRace => "a ruleset for this phase already exists"
  | unsent url => s!"error sending request for url ({url})"
  | unsendable none => "builder error"
  | unsendable (some url) => s!"builder error for url ({url})"
  | unreadableBody => "failed to read response body"
  | unexpectedShape => "unexpected response shape"
  | unsuccessful => "request was not successful"
  | noResult => "response carried no result"
  | ruleNotReturned => "mutated rule missing from the returned ruleset"

/-- Why a journal cannot be written. -/
inductive JournalFault where
  | unavailable
  | unwritable (path : String) (fault : FileFault)
deriving DecidableEq, Repr

def JournalFault.message : JournalFault → String
  | unavailable => "journal unavailable"
  | unwritable path fault => s!"failed to write '{path}': {fault.message}"

/-- Why a configuration is refused. -/
inductive ConfigurationFault where
  | missingToken (setting : String)
  | invalidUrl (setting : String)
  | notNumber (setting text : String)
  | headerToken
  | malformed
  | unreadable (path : String) (fault : FileFault)
deriving DecidableEq, Repr

/-- The wording of a fault in a configuration. -/
def ConfigurationFault.message : ConfigurationFault → String
  | missingToken setting => s!"{setting} environment variable is required"
  | invalidUrl setting => s!"invalid URL for {setting}"
  | notNumber setting text =>
    s!"{setting} must be a non-negative integer, got '{text}'"
  | headerToken => "API token contains characters not allowed in a header"
  | malformed => "failed to parse config"
  | unreadable path fault => s!"failed to read config file '{path}': {fault.message}"

/-- Why an operation fails. -/
inductive Error where
  | remote (endpoint : String) (status : Option Nat) (cause : RemoteCause)
  | containerMissing (zoneId : String) (phase : Phase)
  | duplicateTag (containerId tag : String) (count : Nat)
  | zoneNotFound (zone : String)
  | expression (fault : ExpressionFault)
  | condition (fault : ConditionFault)
  | payload (fault : PayloadFault)
  | journal (fault : JournalFault)
  | configuration (fault : ConfigurationFault)
deriving DecidableEq, Repr

/-- The wording of a failure. -/
def Error.message : Error → String
  | remote endpoint none cause => s!"remote API call {endpoint} failed: {cause.message}"
  | remote endpoint (some status) cause =>
    s!"remote API call {endpoint} failed with status {status}: {cause.message}"
  | containerMissing zoneId phase =>
    s!"rule container for phase '{phase.word}' is missing in zone '{zoneId}'"
  | duplicateTag containerId tag count =>
    s!"tag '{tag}' is carried by {count} rules in container '{containerId}'"
  | zoneNotFound zone => s!"zone '{zone}' not found"
  | expression fault => s!"unsupported expression: {fault.message}"
  | condition fault => s!"invalid condition: {fault.message}"
  | payload fault => s!"invalid payload: {fault.message}"
  | journal fault => s!"change journal write failed: {fault.message}"
  | configuration fault => s!"configuration error: {fault.message}"

end EdgePolicy
