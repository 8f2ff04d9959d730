import EdgePolicy.Http.Url
import EdgePolicy.Json.Value

/-
Requests and responses.
-/

set_option autoImplicit false
set_option relaxedAutoImplicit false

namespace EdgePolicy.Http

inductive Method where
  | get
  | post
  | patch
  | delete
deriving DecidableEq, Repr

def Method.word : Method → String
  | get => "GET"
  | post => "POST"
  | patch => "PATCH"
  | delete => "DELETE"

/-- A request with its authorization and, for some methods, a JSON body. -/
structure Message where
  method : Method
  url : Url
  authorization : String
  body : Option Json.Value
deriving Repr

/-- A response with its body as text, none when the body could not be read to its end. -/
structure Response where
  status : Nat
  body : Option String
deriving DecidableEq, Repr, Inhabited

namespace Response

def isSuccess (response : Response) : Bool :=
  200 ≤ response.status && response.status ≤ 299

def phrases : List (Nat × String) :=
  [(100, "Continue"), (101, "Switching Protocols"), (102, "Processing"), (200, "OK"),
    (201, "Created"), (202, "Accepted"), (203, "Non Authoritative Information"),
    (204, "No Content"), (205, "Reset Content"), (206, "Partial Content"),
    (207, "Multi-Status"), (208, "Already Reported"), (226, "IM Used"),
    (300, "Multiple Choices"), (301, "Moved Permanently"), (302, "Found"), (303, "See Other"),
    (304, "Not Modified"), (305, "Use Proxy"), (307, "Temporary Redirect"),
    (308, "Permanent Redirect"), (400, "Bad Request"), (401, "Unauthorized"),
    (402, "Payment Required"), (403, "Forbidden"), (404, "Not Found"),
    (405, "Method Not Allowed"), (406, "Not Acceptable"),
    (407, "Proxy Authentication Required"), (408, "Request Timeout"), (409, "Conflict"),
    (410, "Gone"), (411, "Length Required"), (412, "Precondition Failed"),
    (413, "Payload Too Large"), (414, "URI Too Long"), (415, "Unsupported Media Type"),
    (416, "Range Not Satisfiable"), (417, "Expectation Failed"), (418, "I'm a teapot"),
    (421, "Misdirected Request"), (422, "Unprocessable Entity"), (423, "Locked"),
    (424, "Failed Dependency"), (425, "Too Early"), (426, "Upgrade Required"),
    (428, "Precondition Required"), (429, "Too Many Requests"),
    (431, "Request Header Fields Too Large"), (451, "Unavailable For Legal Reasons"),
    (500, "Internal Server Error"), (501, "Not Implemented"), (502, "Bad Gateway"),
    (503, "Service Unavailable"), (504, "Gateway Timeout"),
    (505, "HTTP Version Not Supported"), (506, "Variant Also Negotiates"),
    (507, "Insufficient Storage"), (508, "Loop Detected"), (510, "Not Extended"),
    (511, "Network Authentication Required")]

/-- The phrase of a status; a status without one has failed. -/
def phrase (response : Response) : String :=
  (phrases.lookup response.status).getD "request failed"

end Response

/-- What carries requests: a request is answered or cannot be sent. -/
structure Link (m : Type → Type) where
  send : Message → m (Option Response)
  pause : (milliseconds : Nat) → m Unit

namespace Link

def offline {m : Type → Type} [Monad m] : Link m where
  send _ := pure none
  pause _ := pure ()

/-- A link used by what keeps a state of its own. -/
def lift {σ : Type} {m : Type → Type} [Monad m] (link : Link m) : Link (StateT σ m) where
  send message := StateT.lift (link.send message)
  pause milliseconds := StateT.lift (link.pause milliseconds)

/-- Prepared answers, one for each request, and the requests they have answered.  An answer that is
missing stands for a broken connection. -/
structure Script where
  answers : List (Option Response)
  sent : List Message
deriving Repr

def scripted : Link (StateM Script) where
  send message script :=
    ((script.answers.head?).join,
      { answers := script.answers.tail, sent := script.sent ++ [message] })
  pause _ := pure ()

end Link

end EdgePolicy.Http
