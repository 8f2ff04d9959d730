import EdgePolicy.Error
import EdgePolicy.Http.Url

/-
How the platform is reached.

The token never appears in the description of a configuration.
-/

set_option autoImplicit false
set_option relaxedAutoImplicit false

namespace EdgePolicy.Http

/-- The address of the platform, the token, and how long and how often to try. -/
structure Configuration where
  baseUrl : Url
  token : String
  timeoutSeconds : Nat
  maxRetries : Nat
deriving DecidableEq, Repr

namespace Configuration

def defaultBaseUrl : String := "https://api.cloudflare.com/client/v4"

def defaultTimeoutSeconds : Nat := 30

def defaultMaxRetries : Nat := 3

def tokenVariable : String := "CLOUDFLARE_API_TOKEN"

def baseUrlVariable : String := "CLOUDFLARE_API_BASE_URL"

def timeoutVariable : String := "CLOUDFLARE_TIMEOUT_SECS"

def retriesVariable : String := "CLOUDFLARE_MAX_RETRIES"

def url (setting text : String) : Except ConfigurationFault Url :=
  match Url.ofText? text with
  | some url => .ok url
  | none => .error (.invalidUrl setting)

def of (baseUrl token : String) : Except ConfigurationFault Configuration := do
  return {
    baseUrl := ← url "base_url" baseUrl
    token
    timeoutSeconds := defaultTimeoutSeconds
    maxRetries := defaultMaxRetries }

def number (environment : String → Option String) (setting : String) (bound default : Nat) :
    Except ConfigurationFault Nat :=
  match environment setting with
  | none => .ok default
  | some text =>
    match Text.natural? bound (Text.trim text) with
    | some n => .ok n
    | none => .error (.notNumber setting text)

def ofEnvironment (environment : String → Option String) :
    Except ConfigurationFault Configuration := do
  let some token := environment tokenVariable | .error (.missingToken tokenVariable)
  return {
    baseUrl := ← url baseUrlVariable ((environment baseUrlVariable).getD defaultBaseUrl)
    token
    timeoutSeconds := ← number environment timeoutVariable Text.maxWord64 defaultTimeoutSeconds
    maxRetries := ← number environment retriesVariable Text.maxWord32 defaultMaxRetries }

def redacted : String := "[REDACTED]"

def describe (configuration : Configuration) : String :=
  s!"base_url: {configuration.baseUrl.text}, api_token: {redacted}, timeout_secs: "
    ++ s!"{configuration.timeoutSeconds}, max_retries: {configuration.maxRetries}"

end Configuration

end EdgePolicy.Http
