import EdgePolicy.Text.Digits
import EdgePolicy.Text.Scan

/-
Textual addresses and address blocks.

An IPv4 address has four decimal octets without leading zeros.  An IPv6 address has eight groups of
up to four hexadecimal digits; the last two may be written as an IPv4 address, and one run of zero
groups may be left out between two colons.  A block is an address, a slash and the number of its
leading bits.
-/

set_option autoImplicit false
set_option relaxedAutoImplicit false

namespace EdgePolicy

/-- An address: four octets, or eight groups of 16 bits. -/
inductive Address where
  | v4 (octets : List Nat)
  | v6 (groups : List Nat)
deriving DecidableEq, Repr

namespace Address

open Text (digitValue? digitsValue expect? hexValue? takeDigits)

/-- Read an octet: at most three digits, no leading zero, at most 255. -/
def octet? (cs : List Char) : Option (Nat × List Char) :=
  match takeDigits digitValue? cs with
  | ([], _) => none
  | (0 :: _ :: _, _) => none
  | (ds, rest) =>
    if ds.length ≤ 3 ∧ digitsValue 10 ds ≤ 255 then some (digitsValue 10 ds, rest) else none

/-- Read a group: one to four hexadecimal digits. -/
def group? (cs : List Char) : Option (Nat × List Char) :=
  match takeDigits hexValue? cs with
  | ([], _) => none
  | (ds, rest) => if ds.length ≤ 4 then some (digitsValue 16 ds, rest) else none

def octets? (cs : List Char) : Option (List Nat × List Char) := do
  let (a, cs) ← octet? cs
  let (b, cs) ← octet? (← expect? ['.'] cs)
  let (c, cs) ← octet? (← expect? ['.'] cs)
  let (d, cs) ← octet? (← expect? ['.'] cs)
  return ([a, b, c, d], cs)

def groupsOfOctets (octets : List Nat) : List Nat :=
  match octets with
  | [a, b, c, d] => [a * 256 + b, c * 256 + d]
  | _ => []

/-- Read at most `room` groups with colons between them.  An IPv4 address fills two groups and ends
the run; the flag says that one did. -/
def groups : Nat → Bool → List Char → List Nat × Bool × List Char
  | 0, _, cs => ([], false, cs)
  | room + 1, first, cs =>
    let here := if first then some cs else expect? [':'] cs
    let embedded := if room = 0 then none else here.bind octets?
    match embedded with
    | some (octets, rest) => (groupsOfOctets octets, true, rest)
    | none =>
      match here.bind group? with
      | some (group, rest) =>
        let (more, embedded, rest) := groups room false rest
        (group :: more, embedded, rest)
      | none => ([], false, cs)

def v6? (cs : List Char) : Option (Address × List Char) := do
  let (head, embedded, rest) := groups 8 true cs
  if head.length = 8 then return (v6 head, rest)
  if embedded then none
  let rest ← expect? [':', ':'] rest
  let (tail, _, rest) := groups (7 - head.length) true rest
  return (v6 (head ++ List.replicate (8 - head.length - tail.length) 0 ++ tail), rest)

def v4? (cs : List Char) : Option (Address × List Char) := do
  let (octets, rest) ← octets? cs
  return (v4 octets, rest)

def ofChars? (cs : List Char) : Option Address :=
  match (v4? cs).orElse fun _ => v6? cs with
  | some (address, []) => some address
  | _ => none

def bits : Address → Nat
  | v4 _ => 32
  | v6 _ => 128

/-- A text is an address or an address block.  The number of bits is read leniently: leading zeros
and a plus sign are accepted. -/
def isEntry (s : String) : Bool :=
  let cs := s.toList
  let start := cs.takeWhile (· != '/')
  match ofChars? start, cs.drop start.length with
  | some _, [] => true
  | some address, _ :: count =>
    match Text.natural? Text.maxWord8 (String.ofList count) with
    | some count => count ≤ address.bits
    | none => false
  | none, _ => false

end Address

end EdgePolicy
