import Mathlib.Data.List.TakeWhile
import EdgePolicy.Http.Client

/-
Where a call goes.

A path of plain segments behind the address of a host is appended to the path of that address
(`ofText?_append`): nothing in it is taken for an authority, a query or a dot segment, and nothing
is encoded.  So the address of a call tells its segments, behind a directory that depends on the
root alone (`Client.address_segments`).
-/

set_option autoImplicit false
set_option relaxedAutoImplicit false

namespace EdgePolicy

namespace Http

namespace Url

/-- A character that stands for itself everywhere in an address. -/
def isUnreserved (c : Char) : Bool :=
  c.isAlphanum || c == '-' || c == '.' || c == '_' || c == '~'

/-- A text that is one segment of a path as it stands. -/
def isSegment (cs : List Char) : Bool :=
  cs.all isUnreserved && !isDoubleDot cs && !isSingleDot cs

theorem isSegment_iff {cs : List Char} : isSegment cs = true ↔
    (∀ c ∈ cs, isUnreserved c = true) ∧ isDoubleDot cs = false ∧ isSingleDot cs = false := by
  simp [isSegment, and_assoc]

private theorem toNat_of_isUnreserved {c : Char} (unreserved : isUnreserved c = true) :
    0x20 < c.toNat ∧ c.toNat ≤ 0x7e := by
  delta isUnreserved Char.isAlphanum Char.isAlpha Char.isUpper Char.isLower Char.isDigit
    at unreserved
  simp only [Bool.or_eq_true, Bool.and_eq_true, decide_eq_true_eq, beq_iff_eq, ge_iff_le,
    UInt32.le_iff_toNat_le] at unreserved
  change ((((((65 ≤ c.toNat ∧ c.toNat ≤ 90) ∨ 97 ≤ c.toNat ∧ c.toNat ≤ 122) ∨
    48 ≤ c.toNat ∧ c.toNat ≤ 57) ∨ c = '-') ∨ c = '.') ∨ c = '_') ∨ c = '~' at unreserved
  rcases unreserved with ((((alphanumeric | rfl) | rfl) | rfl) | rfl)
  · omega
  all_goals decide

private theorem ne_of_isUnreserved {c mark : Char} (unreserved : isUnreserved c = true)
    (marks : isUnreserved mark = false) : c ≠ mark := by
  rintro rfl
  rw [unreserved] at marks
  cases marks

private theorem percentEncode_segment {cs : List Char} (plain : ∀ c ∈ cs, isUnreserved c = true) :
    Text.percentEncode pathSet cs = cs := by
  have marks : ∀ mark ∈ pathSet, isUnreserved mark = false := by decide
  unfold Text.percentEncode
  induction cs with
  | nil => rfl
  | cons c cs ih =>
    obtain ⟨head, tail⟩ := List.forall_mem_cons.mp plain
    obtain ⟨low, high⟩ := toNat_of_isUnreserved head
    have other : pathSet.contains c = false := by
      rw [← Bool.not_eq_true, List.contains_iff_mem]
      exact fun member => ne_of_isUnreserved head (marks c member) rfl
    have self : Text.percentChar pathSet c = [c] := by
      unfold Text.percentChar
      rw [other, if_neg]
      simp only [Bool.or_eq_true, decide_eq_true_eq, Bool.false_eq_true, or_false]
      omega
    rw [List.flatMap_cons, self, ih tail]
    rfl

private theorem span_stop {p : Char → Bool} {stop : Char} (stops : p stop = false)
    (cs more : List Char) :
    (cs ++ stop :: more).takeWhile p = cs.takeWhile p ∧
      (cs ++ stop :: more).dropWhile p = cs.dropWhile p ++ stop :: more := by
  induction cs with
  | nil => simp [stops]
  | cons c cs ih => cases here : p c <;> simp [here, ih]

private theorem span_append {p : Char → Bool} {cs : List Char} (left : cs.dropWhile p ≠ [])
    (more : List Char) : (cs ++ more).takeWhile p = cs.takeWhile p ∧
      (cs ++ more).dropWhile p = cs.dropWhile p ++ more := by
  induction cs with
  | nil => exact absurd rfl left
  | cons c cs ih =>
    cases here : p c with
    | false => simp [here]
    | true =>
      rw [List.dropWhile_cons_of_pos here] at left
      simpa [here] using ih left

private theorem drop_takeWhile (p : Char → Bool) (cs : List Char) :
    cs.drop (cs.takeWhile p).length = cs.dropWhile p := by
  induction cs with
  | nil => rfl
  | cons c cs ih => cases here : p c <;> simp [here, ih]

private theorem cleaned_eq {s : String} (solid : ∀ c ∈ s.toList, 0x20 < c.toNat) :
    cleaned s = s.toList := by
  have keep : ∀ cs : List Char, (∀ c ∈ cs, 0x20 < c.toNat) →
      cs.dropWhile (fun c => c.toNat ≤ 0x20) = cs := by
    intro cs solid
    cases cs with
    | nil => rfl
    | cons c cs =>
      have head := solid c List.mem_cons_self
      exact List.dropWhile_cons_of_neg (by simpa using head)
  unfold cleaned
  simp only
  rw [keep _ solid, keep _ (by simpa using solid), List.reverse_reverse, List.filter_eq_self]
  intro c member
  have blanks : ∀ blank ∈ ['\t', '\n', '\r'], ¬ 0x20 < blank.toNat := by decide
  have other : c ∉ ['\t', '\n', '\r'] := fun blank => blanks c blank (solid c member)
  simpa [and_assoc] using other

private theorem scheme?_append {cs rest : List Char} {scheme : String}
    (read : scheme? cs = some (scheme, rest)) (more : List Char) :
    scheme? (cs ++ more) = some (scheme, rest ++ more) := by
  cases cs with
  | nil => cases read
  | cons first cs =>
    unfold scheme? at read ⊢
    simp only at read
    split at read
    · next alpha behind =>
      have left : (first :: cs).dropWhile isSchemeChar ≠ [] := by simp [behind]
      obtain ⟨front, behind'⟩ := span_append left more
      cases read
      rw [behind, List.cons_append] at behind'
      simp only [List.cons_append] at behind' front ⊢
      simp only [alpha, behind', front]
    · cases read

/-- What an address says in front of its path: a user, a host and a port, and what is left. -/
structure Authority where
  user : List Char
  password : List Char
  host : Host
  port : Option Nat
  tail : List Char

/-- Read what stands in front of the path in an address of the web. -/
def authority? (scheme : String) (authority : List Char) : Option Authority :=
  let parts := (cutLast? '@' authority).getD ([], authority)
  let cut := cutHost false parts.2
  let portText := cut.2.takeWhile (· != '\\')
  if cut.1.isEmpty then none
  else do
    let host ← Host.ofText? true cut.1
    let port ← port? scheme portText
    let user := userOf parts.1
    return ⟨user.1, user.2, host, port, cut.2.drop portText.length⟩

private theorem ofAuthority?_eq {scheme : String} (web : isWeb scheme = true) (cs : List Char) :
    ofAuthority? scheme cs =
      (authority? scheme (cs.takeWhile fun c => !endsAuthority true c)).map fun authority =>
        let rest := authority.tail ++ cs.dropWhile fun c => !endsAuthority true c
        assemble scheme authority.user authority.password (some authority.host) authority.port
          (pathOf true (pathPart rest)) rest := by
  unfold ofAuthority? authority?
  simp only [web, Bool.true_or, Bool.and_true, drop_takeWhile]
  generalize (cutLast? '@' (cs.takeWhile fun c => !endsAuthority true c)).getD
    ([], cs.takeWhile fun c => !endsAuthority true c) = parts
  generalize cutHost false parts.2 = cut
  cases empty : cut.1.isEmpty with
  | true => rfl
  | false =>
    simp only [Bool.false_eq_true, if_false]
    cases Host.ofText? true cut.1 with
    | none => rfl
    | some host =>
      cases port? scheme (cut.2.takeWhile (· != '\\')) with
      | none => rfl
      | some port => rfl

/-- Segments as they are written in a path. -/
def written (segments : List (List Char)) : List Char :=
  segments.flatMap fun segment => '/' :: segment

private theorem rawSegments_written {segment : List Char} {segments : List (List Char)}
    (plain : ∀ cs ∈ segment :: segments, isSegment cs = true) :
    rawSegments true (segment ++ written segments) = segment :: segments := by
  have marks : isUnreserved '/' = false ∧ isUnreserved '\\' = false := by decide
  have closed : ∀ cs, isSegment cs = true → ∀ c ∈ cs, isSlash true c = false :=
    fun cs segment c member => by
      have unreserved := (isSegment_iff.mp segment).1 c member
      simp [isSlash, ne_of_isUnreserved unreserved marks.1, ne_of_isUnreserved unreserved marks.2]
  induction segments generalizing segment with
  | nil =>
    rw [written, List.flatMap_nil, List.append_nil]
    exact List.splitOnP_eq_singleton (closed segment (plain segment List.mem_cons_self))
  | cons next segments ih =>
    obtain ⟨head, tail⟩ := List.forall_mem_cons.mp plain
    have behind := ih tail
    rw [written, List.flatMap_cons, List.cons_append]
    exact (List.splitOnP_append_cons_of_forall_mem (closed segment head) '/' rfl _).trans
      (congrArg (segment :: ·) behind)

def frontSegments (rest : List Char) : List (List Char) :=
  match rest with
  | [] => []
  | c :: cs => rawSegments true (if isSlash true c then cs else rest)

private theorem pathOf_append (rest more : List Char) :
    pathOf true (rest ++ '/' :: more) =
      .segments (addSegments false [] (frontSegments rest ++ rawSegments true more)) := by
  cases rest with
  | nil => rfl
  | cons c cs =>
    have split (front : List Char) : rawSegments true (front ++ '/' :: more) =
        rawSegments true front ++ rawSegments true more :=
      List.splitOnP_append_cons front more rfl
    rw [List.cons_append, pathOf, frontSegments]
    cases isSlash true c with
    | true => exact congrArg (fun raw => Path.segments (addSegments false [] raw)) (split cs)
    | false => exact congrArg (fun raw => Path.segments (addSegments false [] raw)) (split (c :: cs))

/-- The path that raw segments lead to when more of them follow. -/
def walk (before : List (List Char)) : List (List Char) → List (List Char)
  | [] => before
  | raw :: rest =>
    walk (if isDoubleDot raw then shorten before
      else if isSingleDot raw then before
      else before ++ [Text.percentEncode pathSet raw]) rest

private theorem addSegments_walk (before front : List (List Char)) (last : List Char)
    (more : List (List Char)) :
    addSegments false before (front ++ last :: more) =
      addSegments false (walk before front) (last :: more) := by
  induction front generalizing before with
  | nil => rfl
  | cons raw front ih =>
    have follows : (front ++ last :: more).isEmpty = false := by simp
    rw [List.cons_append, addSegments, walk, ih]
    simp only [follows, Bool.false_eq_true, if_false, Bool.false_and, List.append_nil]

private theorem addSegments_plain {segments : List (List Char)}
    (plain : ∀ cs ∈ segments, isSegment cs = true) (before : List (List Char)) :
    addSegments false before segments = before ++ segments := by
  induction segments generalizing before with
  | nil => exact (List.append_nil before).symm
  | cons segment segments ih =>
    obtain ⟨head, tail⟩ := List.forall_mem_cons.mp plain
    obtain ⟨unreserved, notDouble, notSingle⟩ := isSegment_iff.mp head
    rw [addSegments]
    simp only [notDouble, notSingle, Bool.false_eq_true, if_false, Bool.false_and]
    rw [percentEncode_segment unreserved, ih tail, List.append_assoc, List.singleton_append]

private theorem endsPath_written {segments : List (List Char)}
    (plain : ∀ cs ∈ segments, isSegment cs = true) :
    ∀ c ∈ written segments, endsPath c = false := by
  have marks : isUnreserved '?' = false ∧ isUnreserved '#' = false := by decide
  intro c member
  obtain ⟨segment, within, member⟩ := List.mem_flatMap.mp member
  rcases List.mem_cons.mp member with rfl | inside
  · rfl
  · have unreserved := (isSegment_iff.mp (plain segment within)).1 c inside
    simp [endsPath, ne_of_isUnreserved unreserved marks.1, ne_of_isUnreserved unreserved marks.2]

private theorem solid_written {segments : List (List Char)}
    (plain : ∀ cs ∈ segments, isSegment cs = true) : ∀ c ∈ written segments, 0x20 < c.toNat := by
  intro c member
  obtain ⟨segment, within, member⟩ := List.mem_flatMap.mp member
  rcases List.mem_cons.mp member with rfl | inside
  · decide
  · exact (toNat_of_isUnreserved ((isSegment_iff.mp (plain segment within)).1 c inside)).1

private theorem tailPart_of_tailOf {web : Bool} {rest : List Char}
    (query : (tailOf web (tailPart rest)).1 = none)
    (fragment : (tailOf web (tailPart rest)).2 = none) : tailPart rest = [] := by
  unfold tailOf at query fragment
  cases behind : tailPart rest with
  | nil => rfl
  | cons c cs =>
    have stops : endsPath c = true := by
      have head := List.head?_dropWhile_not (fun c => !endsPath c) rest
      unfold tailPart at behind
      rw [behind] at head
      simpa using head
    rw [behind] at query fragment
    simp only [endsPath, Bool.or_eq_true, beq_iff_eq] at stops
    rcases stops with rfl | rfl
    · cases query
    · cases fragment

private theorem scheme_of_ofAuthority? {scheme : String} {cs : List Char} {url : Url}
    (read : ofAuthority? scheme cs = some url) : url.scheme = scheme := by
  unfold ofAuthority? at read
  simp only at read
  split at read
  · cases read
  · simp only [Option.bind_eq_bind, Option.bind_eq_some_iff] at read
    obtain ⟨host, -, port, -, same⟩ := read
    cases same
    rfl

private theorem scheme_of_ofFile? {scheme : String} {cs : List Char} {url : Url}
    (read : ofFile? scheme cs = some url) : url.scheme = scheme := by
  unfold ofFile? at read
  simp only at read
  split at read
  · cases read
    rfl
  · split at read
    · cases read
      rfl
    · simp only [Option.bind_eq_bind, Option.bind_eq_some_iff] at read
      obtain ⟨host, -, read⟩ := read
      split at read <;> cases read <;> rfl

private theorem ofText?_web {s : String} {url : Url} (read : ofText? s = some url)
    (web : url.scheme = "http" ∨ url.scheme = "https") :
    ∃ rest, scheme? (cleaned s) = some (url.scheme, rest) ∧
      ofAuthority? url.scheme (rest.dropWhile (isSlash true)) = some url := by
  have apart : isFile url.scheme = false ∧ isWeb url.scheme = true := by
    rcases web with web | web <;> rw [web] <;> decide
  obtain ⟨⟨scheme, rest⟩, split, read⟩ := Option.bind_eq_some_iff.mp read
  simp only at read
  have same : isFile scheme = true ∨ isWeb scheme = false → url.scheme = scheme → False := by
    rintro other rfl
    simp [apart] at other
  split at read
  · next file => exact (same (.inl file) (scheme_of_ofFile? read)).elim
  · split at read
    · rw [scheme_of_ofAuthority? read]
      exact ⟨rest, split, read⟩
    · next notWeb =>
      refine (same (.inr (Bool.not_eq_true _ ▸ notWeb)) ?_).elim
      split at read
      · exact scheme_of_ofAuthority? read
      · cases read
        rfl
      · cases read
        rfl

/-- Segments behind an address of the web are appended to its path. -/
theorem ofText?_append {root : String} {base : Url} (solid : ∀ c ∈ root.toList, 0x20 < c.toNat)
    (read : ofText? root = some base) (web : base.scheme = "http" ∨ base.scheme = "https")
    (query : base.query = none) (fragment : base.fragment = none) :
    base.host.isSome = true ∧ ∃ directory, ∀ segment segments,
      (∀ cs ∈ segment :: segments, isSegment cs = true) →
      ofText? (root ++ String.ofList (written (segment :: segments))) =
        some { base with path := .segments (directory ++ segment :: segments) } := by
  have apart : isFile base.scheme = false ∧ isWeb base.scheme = true := by
    rcases web with web | web <;> rw [web] <;> decide
  obtain ⟨rest, split, authority⟩ := ofText?_web read web
  rw [cleaned_eq solid] at split
  have left : rest.dropWhile (isSlash true) ≠ [] := fun empty => by
    rw [empty, ofAuthority?_eq apart.2] at authority
    cases authority
  rw [ofAuthority?_eq apart.2] at authority
  obtain ⟨authority, found, same⟩ := Option.map_eq_some_iff.mp authority
  simp only at same
  generalize shape : authority.tail ++ (rest.dropWhile (isSlash true)).dropWhile
    (fun c => !endsAuthority true c) = path at same
  refine ⟨by rw [← same]; rfl, walk [] (frontSegments path), fun segment segments plain => ?_⟩
  have noTail : tailPart path = [] :=
    tailPart_of_tailOf (by rw [← same] at query; exact query)
      (by rw [← same] at fragment; exact fragment)
  have inPath : ∀ c ∈ path, endsPath c = false := by
    simpa [tailPart, List.dropWhile_eq_nil_iff] using noTail
  have solid' : ∀ c ∈ (root ++ String.ofList (written (segment :: segments))).toList,
      0x20 < c.toNat := by
    rw [String.toList_append, String.toList_ofList]
    exact List.forall_mem_append.mpr ⟨solid, solid_written plain⟩
  obtain ⟨more, shape'⟩ : ∃ more, written (segment :: segments) = '/' :: more ∧
      rawSegments true more = segment :: segments :=
    ⟨_, rfl, rawSegments_written plain⟩
  obtain ⟨front, behind⟩ := @span_stop (fun c => !endsAuthority true c) '/' rfl
    (rest.dropWhile (isSlash true)) more
  have clear : ∀ c ∈ path ++ '/' :: more, (!endsPath c) = true := by
    rw [← shape'.1]
    simpa using List.forall_mem_append.mpr ⟨inPath, endsPath_written plain⟩
  have whole : pathPart (path ++ '/' :: more) = path ++ '/' :: more :=
    List.takeWhile_eq_self_iff.mpr clear
  have noTail' : tailPart (path ++ '/' :: more) = [] := List.dropWhile_eq_nil_iff.mpr clear
  unfold ofText?
  rw [cleaned_eq solid', String.toList_append, String.toList_ofList,
    scheme?_append split (written (segment :: segments)), Option.bind_eq_bind, Option.bind_some]
  simp only [apart, Bool.false_eq_true, if_false, if_true]
  rw [(span_append left _).2, shape'.1, ofAuthority?_eq apart.2, front, behind, found,
    Option.map_some, ← List.append_assoc, shape]
  simp only [assemble, whole, noTail', pathOf_append]
  rw [shape'.2, addSegments_walk, addSegments_plain plain, ← same]
  simp only [assemble, noTail]

end Url

end Http

namespace Call

def segments : Call → List String
  | resolveZone _ => ["zones"]
  | listContainers zoneId | createContainer zoneId _ => ["zones", zoneId, "rulesets"]
  | fetchContainer zoneId containerId => ["zones", zoneId, "rulesets", containerId]
  | createRule zoneId containerId _ => ["zones", zoneId, "rulesets", containerId, "rules"]
  | patchRule zoneId containerId ruleId _ | deleteRule zoneId containerId ruleId =>
    ["zones", zoneId, "rulesets", containerId, "rules", ruleId]

theorem path_eq (call : Call) :
    call.path = String.ofList (Http.Url.written (call.segments.map String.toList)) := by
  rw [← String.toList_inj, String.toList_ofList]
  cases call <;>
    simp [path, segments, Http.Url.written, containersPath, containerPath, rulesPath, rulePath,
      String.toList_append, toString]

private theorem exists_segments (call : Call) :
    ∃ rest, call.segments.map String.toList = "zones".toList :: rest := by
  cases call <;> exact ⟨_, rfl⟩

end Call

namespace Http.Client

/-- The root of a client is an address of the web, without a query and a fragment. -/
structure IsPlain (client : Client) (base : Url) : Prop where
  solid : ∀ c ∈ client.root.toList, 0x20 < c.toNat
  read : Url.ofText? client.root = some base
  web : base.scheme = "http" ∨ base.scheme = "https"
  query : base.query = none
  fragment : base.fragment = none

def directory (client : Client) : List (List Char) :=
  match Url.ofText? (client.root ++ "/") with
  | some url =>
    match url.path with
    | .segments segments => segments.dropLast
    | .plain _ => []
  | none => []

/-- A call goes to its own segments behind the directory of the client. -/
theorem address_segments {client : Client} {base : Url} (plain : client.IsPlain base) {call : Call}
    (safe : ∀ segment ∈ call.segments, Url.isSegment segment.toList = true) :
    client.address call = .ok (Url.withQuery { base with
      path := .segments (client.directory ++ call.segments.map String.toList) } call.query) := by
  obtain ⟨host, directory, append⟩ :=
    Url.ofText?_append plain.solid plain.read plain.web plain.query plain.fragment
  have same : client.directory = directory := by
    have slash := append [] [] (by decide)
    have written : String.ofList (Url.written [[]]) = "/" := rfl
    rw [written] at slash
    unfold Client.directory
    rw [slash]
    exact List.dropLast_concat
  obtain ⟨rest, shape⟩ := call.exists_segments
  have segments : ∀ cs ∈ "zones".toList :: rest, Url.isSegment cs = true := by
    rw [← shape]
    exact List.forall_mem_map.mpr safe
  unfold address
  rw [call.path_eq, shape, append _ _ segments, same]
  simp only [Option.isNone_eq_false_iff.mpr host, Bool.false_eq_true, if_false]
  exact if_pos plain.web

end Http.Client

end EdgePolicy
