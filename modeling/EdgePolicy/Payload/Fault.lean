import EdgePolicy.Expression.Fault

/-
What can be wrong with a payload.
-/

set_option autoImplicit false
set_option relaxedAutoImplicit false

namespace EdgePolicy

open Text (shown)

/-- Why a file cannot be read or written. -/
inductive FileFault where
  | missing
  | isDirectory
  | notDirectory
  | notText
  | other (reason : String)
deriving DecidableEq, Repr

def FileFault.message : FileFault → String
  | missing => "No such file or directory (os error 2)"
  | isDirectory => "Is a directory (os error 21)"
  | notDirectory => "Not a directory (os error 20)"
  | notText => "stream did not contain valid UTF-8"
  | other reason => reason

/-- Why a payload is refused. -/
inductive PayloadFault where
  | noSubdomains
  | emptySubdomain (zone name : String)
  | notAddress (entry : String)
  | emptyCountry
  | botOperator (operator : Operator)
  | noConditions (rule : Nat)
  | customField (rule : Nat) (field : Field)
  | repeatedKey (key : String)
  | cacheTarget
  | missingSeconds (mode : String)
  | noZone
  | unreadable (path : String) (fault : FileFault)
  | malformed (path : String)
deriving DecidableEq, Repr

def PayloadFault.message : PayloadFault → String
  | noSubdomains => "subdomains must not be empty"
  | emptySubdomain zone name =>
    s!"subdomain entry has an empty zone or name: SubdomainRef \x7b zone: {shown zone}, "
      ++ s!"name: {shown name} \x7d"
  | notAddress entry => s!"not an IP address or CIDR block: {shown entry}"
  | emptyCountry => "country code must not be empty"
  | botOperator operator => s!"verified-bot rule does not support operator {operator.token}"
  | noConditions rule => s!"custom rule #{rule} has no conditions"
  | customField rule field =>
    s!"custom rule #{rule} must start with a header, full_uri or user_agent condition, "
      ++ s!"not {field.name}"
  | repeatedKey key => s!"more than one custom rule keyed on {key}"
  | cacheTarget => "cache request needs both name and zone"
  | missingSeconds mode => s!"TTL mode {mode} needs a default"
  | noZone => "DDoS request needs a zone"
  | unreadable path fault => s!"failed to read '{path}': {fault.message}"
  | malformed path => s!"'{path}' is not a valid payload"

end EdgePolicy
