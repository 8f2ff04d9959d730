import EdgePolicy.Http.Host
import EdgePolicy.Text.Blank

/-
Web addresses.

An address is read leniently and kept in one normal form: the scheme in lower case, a port only
where it is not the usual one, dot segments resolved, and characters that do not belong into a
place percent-encoded.
-/

set_option autoImplicit false
set_option relaxedAutoImplicit false

namespace EdgePolicy.Http

/-- The path of an address: segments behind slashes, or for some schemes a plain text. -/
inductive Path where
  | segments (segments : List (List Char))
  | plain (text : List Char)
deriving DecidableEq, Repr

/-- An absolute address. -/
structure Url where
  scheme : String
  user : List Char
  password : List Char
  host : Option Host
  port : Option Nat
  path : Path
  query : Option (List Char)
  fragment : Option (List Char)
deriving DecidableEq, Repr

namespace Url

def usualPort? (scheme : String) : Option Nat :=
  if scheme = "http" ∨ scheme = "ws" then some 80
  else if scheme = "https" ∨ scheme = "wss" then some 443
  else if scheme = "ftp" then some 21
  else none

def isFile (scheme : String) : Bool := scheme == "file"

/-- A scheme of the web, whose addresses always have a path. -/
def isWeb (scheme : String) : Bool := (usualPort? scheme).isSome || isFile scheme

def fragmentSet : List Char := [' ', '"', '<', '>', '\x60']

def querySet (web : Bool) : List Char :=
  [' ', '"', '#', '<', '>'] ++ if web then [Char.ofNat 0x27] else []

def pathSet : List Char := fragmentSet ++ ['#', '?', '\x7b', '\x7d']

/-- Characters that are encoded in a user name or password. -/
def userSet : List Char := pathSet ++ ['/', ':', ';', '=', '@', '[', '\\', ']', '^', '|']

/-- The input without blanks at its ends and without line breaks and tabs. -/
def cleaned (s : String) : List Char :=
  let inner := s.toList.dropWhile (·.toNat ≤ 0x20)
  let inner := (inner.reverse.dropWhile (·.toNat ≤ 0x20)).reverse
  inner.filter fun c => !(c == '\t' || c == '\n' || c == '\r')

def isSchemeChar (c : Char) : Bool := c.isAlphanum || c == '+' || c == '-' || c == '.'

/-- The scheme, in lower case, and what follows its colon. -/
def scheme? (cs : List Char) : Option (String × List Char) :=
  match cs with
  | first :: _ =>
    match first.isAlpha, cs.dropWhile isSchemeChar with
    | true, ':' :: rest =>
      some (String.ofList ((cs.takeWhile isSchemeChar).map Char.toLower), rest)
    | _, _ => none
  | [] => none

def isSlash (web : Bool) (c : Char) : Bool := c == '/' || (web && c == '\\')

def endsAuthority (web : Bool) (c : Char) : Bool := isSlash web c || c == '?' || c == '#'

def cutLast? (mark : Char) (cs : List Char) : Option (List Char × List Char) :=
  match cs.reverse.span (· != mark) with
  | (after, _ :: before) => some (before.reverse, after.reverse)
  | (_, []) => none

/-- Cut a host from what follows it: a colon outside brackets ends it. -/
def cutHost (inside : Bool) : List Char → List Char × List Char
  | [] => ([], [])
  | c :: rest =>
    if c == ':' && !inside then ([], c :: rest)
    else
      let (host, after) := cutHost (if c == '[' then true else if c == ']' then false else inside)
        rest
      (c :: host, after)

def port? (scheme : String) : List Char → Option (Option Nat)
  | [] => some none
  | ':' :: digits =>
    if digits.isEmpty then some none
    else do
      let port := Text.digitsValue 10 (← digits.mapM Text.digitValue?)
      if 65535 < port then none
      return if usualPort? scheme = some port then none else some port
  | _ => none

/-- A segment that stands for its own place. -/
def isSingleDot (segment : List Char) : Bool :=
  let s := String.ofList (segment.map Char.toLower)
  s == "." || s == "%2e"

/-- A segment that stands for the place above. -/
def isDoubleDot (segment : List Char) : Bool :=
  let s := String.ofList (segment.map Char.toLower)
  s == ".." || s == ".%2e" || s == "%2e." || s == "%2e%2e"

def isDrive (segment : List Char) : Bool :=
  match segment with
  | [letter, mark] => letter.isAlpha && (mark == ':' || mark == '|')
  | _ => false

def namesDrive (segment : List Char) : Bool := isDrive (segment.takeWhile (· != '\\'))

/-- Drop the last segment; a drive letter stays. -/
def shorten (segments : List (List Char)) : List (List Char) :=
  match segments.getLast? with
  | some last => if namesDrive last then segments else segments.dropLast
  | none => []

/-- Add raw segments to a path.  Dots at the end leave an empty segment, and the drive letter at the
start of a local path gets its colon. -/
def addSegments (file : Bool) (before : List (List Char)) :
    List (List Char) → List (List Char)
  | [] => before
  | raw :: rest =>
    let after :=
      if isDoubleDot raw then
        shorten before ++ if rest.isEmpty then [[]] else []
      else if isSingleDot raw then
        before ++ if rest.isEmpty then [[]] else []
      else if file && before.isEmpty && isDrive raw then
        before ++ [raw.take 1 ++ [':']]
      else before ++ [Text.percentEncode pathSet raw]
    addSegments file after rest

/-- The raw segments of a path without its first slash. -/
def rawSegments (web : Bool) (cs : List Char) : List (List Char) := cs.splitOnP (isSlash web)

def pathOf (web : Bool) (cs : List Char) : Path :=
  match cs with
  | [] => .segments (if web then [[]] else [])
  | c :: rest =>
    .segments (addSegments false [] (rawSegments web (if isSlash web c then rest else cs)))

/-- The segments of a local path, from the text behind its first slash. -/
def fileSegments (cs : List Char) : List (List Char) := addSegments true [] (rawSegments true cs)

/-- The path of a local file.  Empty segments at the start are left out. -/
def filePath (segments : List (List Char)) : Path :=
  match segments.dropWhile List.isEmpty with
  | [] => .segments [[]]
  | segments => .segments segments

/-- The query and fragment of the text behind the path. -/
def tailOf (web : Bool) (cs : List Char) : Option (List Char) × Option (List Char) :=
  let fragment := match cs.dropWhile (· != '#') with
    | _ :: rest => some (Text.percentEncode fragmentSet rest)
    | [] => none
  let query := match cs with
    | '?' :: rest => some (Text.percentEncode (querySet web) (rest.takeWhile (· != '#')))
    | _ => none
  (query, fragment)

def endsPath (c : Char) : Bool := c == '?' || c == '#'

def pathPart (cs : List Char) : List Char := cs.takeWhile fun c => !endsPath c

/-- The query and fragment of a text, behind its path. -/
def tailPart (cs : List Char) : List Char := cs.dropWhile fun c => !endsPath c

/-- Put an address together from its authority and its path, and from the text in which query and
fragment follow the path. -/
def assemble (scheme : String) (user password : List Char) (host : Option Host)
    (port : Option Nat) (path : Path) (rest : List Char) : Url :=
  let tail := tailOf (isWeb scheme) (tailPart rest)
  { scheme, user, password, host, port, path, query := tail.1, fragment := tail.2 }

/-- The user name and password of what stands before the host. -/
def userOf (cs : List Char) : List Char × List Char :=
  let name := cs.takeWhile (· != ':')
  (Text.percentEncode userSet name, Text.percentEncode userSet (cs.drop (name.length + 1)))

/-- Read an address behind the two slashes of its authority.  A host may be missing only outside the
web, where neither a user nor a port asks for one. -/
def ofAuthority? (scheme : String) (cs : List Char) : Option Url := do
  let web := isWeb scheme
  let authority := cs.takeWhile fun c => !endsAuthority web c
  let behind := cs.drop authority.length
  let (before, target) := (cutLast? '@' authority).getD ([], authority)
  let (hostText, more) := cutHost false target
  let portText := more.takeWhile (· != '\\')
  let rest := more.drop portText.length ++ behind
  let (user, password) := userOf before
  let endsInAt := authority == ['@']
  let wantsHost := web || !portText.isEmpty || !user.isEmpty || !password.isEmpty
    || (endsInAt && !behind.isEmpty)
  if hostText.isEmpty && wantsHost then none
  let host ← Host.ofText? web hostText
  let port ← port? scheme portText
  return assemble scheme user password (some host) port (pathOf web (pathPart rest)) rest

/-- Read the address of a local file behind its scheme.  A drive letter at the start of the path
drops the host. -/
def ofFile? (scheme : String) (cs : List Char) : Option Url :=
  let place (host : Option Host) (path rest : List Char) : Url :=
    let segments := fileSegments path
    let host := if (segments.take 1).any isDrive then none else host
    assemble scheme [] [] host none (filePath segments) rest
  let start := cs.drop ((cs.take 2).takeWhile (isSlash true)).length
  if cs.length < start.length + 2 then some (place none (pathPart start) start)
  else
    let hostText := start.takeWhile fun c => !endsAuthority true c
    let rest := start.drop hostText.length
    if hostText.isEmpty || isDrive hostText then some (place none (pathPart start) start)
    else do
      let host ← Host.ofText? true hostText
      if host = .domain "localhost".toList then return place none (pathPart rest) rest
      return place (some host) ((pathPart rest).drop 1) rest

def ofText? (s : String) : Option Url := do
  let (scheme, rest) ← scheme? (cleaned s)
  if isFile scheme then ofFile? scheme rest
  else if isWeb scheme then ofAuthority? scheme (rest.dropWhile (isSlash true))
  else match rest with
    | '/' :: '/' :: rest => ofAuthority? scheme rest
    | '/' :: _ =>
      return assemble scheme [] [] none none (pathOf false (pathPart rest)) rest
    | _ =>
      return assemble scheme [] [] none none (.plain (Text.percentEncode [] (pathPart rest))) rest

def pathText : Path → List Char
  | .segments segments => segments.flatMap fun segment => '/' :: segment
  | .plain text => text

/-- The user name and password as they are written before the host. -/
def userText (url : Url) : List Char :=
  if url.user.isEmpty && url.password.isEmpty then []
  else url.user ++ (if url.password.isEmpty then [] else ':' :: url.password) ++ ['@']

/-- The authority as it is written; a path that starts with an empty segment is kept apart from a
missing one. -/
def authorityText (url : Url) : List Char :=
  match url.host with
  | some host =>
    '/' :: '/' :: url.userText ++ host.text
      ++ match url.port with
        | some port => ':' :: Text.digits port
        | none => []
  | none =>
    if isFile url.scheme then ['/', '/']
    else match url.path with
      | .segments ([] :: _ :: _) => ['/', '.']
      | _ => []

/-- What is asked of the host: path and query. -/
def targetChars (url : Url) : List Char :=
  pathText url.path
    ++ match url.query with
      | some query => '?' :: query
      | none => []

def target (url : Url) : String := String.ofList url.targetChars

def text (url : Url) : String :=
  url.scheme ++ ":" ++ String.ofList (url.authorityText ++ url.targetChars
    ++ match url.fragment with
      | some fragment => '#' :: fragment
      | none => [])

/-- Add pairs of names and values to the query; an empty query is dropped. -/
def withQuery (url : Url) (pairs : List (String × String)) : Url :=
  let written := pairs.map fun pair => Text.formEncode pair.1 ++ '=' :: Text.formEncode pair.2
  let parts := (url.query.getD []) :: written
  let query := List.intercalate ['&'] (parts.filter fun part => !part.isEmpty)
  { url with query := if query.isEmpty then none else some query }

end Url

end EdgePolicy.Http
