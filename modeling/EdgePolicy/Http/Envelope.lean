import EdgePolicy.Error
import EdgePolicy.Http.Message
import EdgePolicy.Json.Reader

/-
The envelope around every response of the platform.

A response of success carries a result and may still say that the request was not successful; any
other response may carry error messages.
-/

set_option autoImplicit false
set_option relaxedAutoImplicit false

namespace EdgePolicy.Http

open Json (Document)

structure ReportedError where
  code : Option Int
  text : String
deriving DecidableEq, Repr

def ReportedError.ofJson? (document : Document) : Option ReportedError := do
  let fields ← document.record? [] ["code", "message"]
  return {
    code := ← fields.optional? "code" (Document.integer? Int64.minValue.toInt Int64.maxValue.toInt)
    text := ← fields.withDefault? ["message"] "" Document.string? }

/-- The envelope around a result. -/
structure Envelope (α : Type) where
  success : Option Bool
  errors : List ReportedError
  result : Option α
deriving Repr

namespace Envelope

def ofJson? {α : Type} (decode : Document → Option α) (document : Document) :
    Option (Envelope α) := do
  let fields ← document.record? ["success", "errors", "result"] []
  return {
    success := ← fields.optional? "success" Document.bool?
    errors := ← fields.withDefault? ["errors"] [] (Document.list? ReportedError.ofJson?)
    result := ← fields.optional? "result" decode }

def ofText? {α : Type} (decode : Document → Option α) (s : String) : Option (Envelope α) :=
  (Document.ofText? s).bind (ofJson? decode)

/-- What the first error of an envelope says, with its code. -/
def complaint? (s : String) : Option String := do
  let envelope ← ofText? Document.value? s
  let first ← envelope.errors.head?
  if first.text.isEmpty then none
  match first.code with
  | some code => return s!"{first.text} (code {code})"
  | none => return first.text

def result? {α : Type} (envelope : Envelope α) : Except RemoteCause α :=
  if envelope.success = some false then
    match (envelope.errors.map (·.text)).find? (!·.isEmpty) with
    | some text => .error (.reported text)
    | none => .error .unsuccessful
  else match envelope.result with
    | some result => .ok result
    | none => .error .noResult

end Envelope

/-- What a response that is no success says in its body: its first error, the body, or the phrase of
its status. -/
def Response.complaint (response : Response) (body : String) : String :=
  match Envelope.complaint? body with
  | some text => text
  | none => if Text.isBlankText body then response.phrase else body

end EdgePolicy.Http
