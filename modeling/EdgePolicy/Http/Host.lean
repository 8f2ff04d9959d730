import EdgePolicy.Domain.Name
import EdgePolicy.Payload.Address
import EdgePolicy.Text.Percent

/-
Hosts of web addresses.

The host of a scheme of the web is a domain in its ASCII form, an IPv4 address in any radix, or an
IPv6 address between brackets.  Other schemes name their hosts by a text that is not interpreted.
-/

set_option autoImplicit false
set_option relaxedAutoImplicit false

namespace EdgePolicy.Http

open Text (digitsValue)

inductive Host where
  | domain (name : List Char)
  | v4 (address : Nat)
  | v6 (groups : List Nat)
  | named (text : List Char)
deriving DecidableEq, Repr

namespace Host

def forbidden : List Char :=
  ['\x00', '\t', '\n', '\r', ' ', '#', '/', ':', '<', '>', '?', '@', '[', '\\', ']', '^', '|']

def isForbiddenInDomain (c : Char) : Bool :=
  c.toNat ≤ 0x20 || c.toNat == 0x7f || c == '%' || forbidden.contains c

def digitsOf? (radix : Nat) (cs : List Char) : Option (List Nat) :=
  cs.mapM fun c => (Text.hexValue? c).bind fun d => if d < radix then some d else none

/-- A part of an IPv4 address: hexadecimal after `0x`, octal after `0`, decimal otherwise. -/
def number? : List Char → Option Nat
  | [] => none
  | ['0'] => some 0
  | '0' :: 'x' :: cs => (digitsOf? 16 cs).map (digitsValue 16)
  | '0' :: 'X' :: cs => (digitsOf? 16 cs).map (digitsValue 16)
  | '0' :: cs => (digitsOf? 8 cs).map (digitsValue 8)
  | cs => (digitsOf? 10 cs).map (digitsValue 10)

/-- The labels of a domain without an empty one at the end. -/
def labels (name : List Char) : List (List Char) :=
  let all := name.splitOn '.'
  if 1 < all.length ∧ all.getLast? = some [] then all.dropLast else all

/-- A domain that must be read as an IPv4 address. -/
def endsInNumber (name : List Char) : Bool :=
  match (labels name).getLast? with
  | some last => (!last.isEmpty && last.all Char.isDigit) || (number? last).isSome
  | none => false

/-- The address of at most four numbers; the last one fills what the others leave. -/
def address? (numbers : List Nat) : Option Nat :=
  match numbers.getLast? with
  | none => none
  | some last =>
    let octets := numbers.dropLast
    let weigh := fun sum (octet : Nat × Nat) => sum + octet.1 * Nat.pow 256 (3 - octet.2)
    if 4 < numbers.length ∨ octets.any (255 < ·) ∨ Nat.pow 256 (4 - octets.length) ≤ last then none
    else some (octets.zipIdx.foldl weigh last)

def ofDomain? (cs : List Char) : Option Host := do
  let decoded ← String.fromUTF8? ⟨(Text.percentDecode cs).toArray⟩
  let name ← Domain.toAscii? decoded.toList
  if name.isEmpty || name.any isForbiddenInDomain then none
  if endsInNumber name then
    return v4 (← address? (← (labels name).mapM number?))
  return domain name

def ofBrackets? (cs : List Char) : Option Host :=
  match cs.getLast?, Address.v6? cs.dropLast with
  | some ']', some (.v6 groups, []) => some (v6 groups)
  | _, _ => none

/-- Read a host, of a scheme of the web or of another one. -/
def ofText? (web : Bool) : List Char → Option Host
  | '[' :: cs => ofBrackets? cs
  | cs =>
    if web then ofDomain? cs
    else if cs.any (forbidden.contains ·) then none
    else some (named (Text.percentEncode [] cs))

/-- The octets of an IPv4 address between points. -/
def v4Text (address : Nat) : List Char :=
  List.intercalate ['.'] ((Text.lastDigits 256 4 address).map Text.digits)

def zeroRun (groups : List Nat) : Nat := (groups.takeWhile (· == 0)).length

/-- The start and length of the first longest run of zeros, from an index on. -/
def longestRun : Nat → List Nat → Nat × Nat
  | _, [] => (0, 0)
  | index, group :: rest =>
    let later := longestRun (index + 1) rest
    let here := zeroRun (group :: rest)
    if later.2 ≤ here then (index, here) else later

def groupsText (groups : List Nat) : List Char :=
  List.intercalate [':'] (groups.map (Nat.toDigits 16))

/-- The groups of an IPv6 address, the longest run of at least two zeros left out. -/
def v6Text (groups : List Nat) : List Char :=
  let run := longestRun 0 groups
  if run.2 < 2 then groupsText groups
  else groupsText (groups.take run.1) ++ ':' :: ':' :: groupsText (groups.drop (run.1 + run.2))

def text : Host → List Char
  | domain name => name
  | v4 address => v4Text address
  | v6 groups => '[' :: v6Text groups ++ [']']
  | named text => text

end Host

end EdgePolicy.Http
