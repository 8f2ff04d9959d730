import EdgePolicy.Proofs.Json.Compact

/-
No object ends with the text of another object.

An opening brace inside the text of an object either stands in a string or opens an object that
ends before the outer one does.  The first leaves an odd number of quotes behind it (`oddQuotes`),
and the second leaves text behind its object.  Neither holds of the text of a whole object, so that
an object that ends with another one is that object (`front_nil_of_compact`).
-/

set_option autoImplicit false
set_option relaxedAutoImplicit false

namespace EdgePolicy.Json

open Writer (boolText charText compact compactItems compactMembers hexDigit stringText)

/-- The number of quotes in a text is odd, those behind a backslash not counted. -/
def oddQuotes : List Char → Bool
  | [] => false
  | '\\' :: _ :: rest => oddQuotes rest
  | '"' :: rest => !oddQuotes rest
  | _ :: rest => oddQuotes rest

private theorem oddQuotes_plain {c : Char} (unquoted : c ≠ '"') (unescaped : c ≠ '\\')
    (rest : List Char) : oddQuotes (c :: rest) = oddQuotes rest := by
  rw [oddQuotes]
  · simp [unescaped]
  · exact unquoted

/-- Every opening brace of a text stands in a string, or opens an object that ends before the text
does. -/
def BracesInside (text : List Char) : Prop :=
  ∀ front back rest, text ++ rest = front ++ '\x7b' :: back →
    (∃ between, front = text ++ between) ∨ oddQuotes back ≠ oddQuotes rest ∨
      ∃ inner more, inner.isWorded = true ∧ more ≠ [] ∧
        '\x7b' :: back = compact inner ++ (more ++ rest)

theorem BracesInside.append {word text : List Char} (braceless : '\x7b' ∉ word)
    (inside : BracesInside text) : BracesInside (word ++ text) := by
  intro front back rest shape
  rw [List.append_assoc] at shape
  have behind : ∃ front', front = word ++ front' ∧ text ++ rest = front' ++ '\x7b' :: back := by
    rcases List.append_eq_append_iff.mp shape with ⟨front', rfl, shape'⟩ | ⟨cut, split, shape'⟩
    · exact ⟨front', rfl, shape'⟩
    · cases cut with
      | nil => exact ⟨[], by simpa using split.symm, by simpa using shape'.symm⟩
      | cons c cut =>
        obtain ⟨rfl, -⟩ := List.cons.inj shape'
        exact absurd (split ▸ List.mem_append_right _ List.mem_cons_self) braceless
  obtain ⟨front', rfl, shape'⟩ := behind
  rcases inside front' back rest shape' with ⟨between, rfl⟩ | later
  · exact .inl ⟨between, (List.append_assoc _ _ _).symm⟩
  · exact .inr later

private theorem hexDigit_plain {n : Nat} (bound : n < 16) :
    hexDigit n ≠ '"' ∧ hexDigit n ≠ '\\' ∧ hexDigit n ≠ '\x7b' := by
  revert n
  decide

private theorem Spelled.quotes {c : Char} {text : List Char} (spelled : Spelled c text) :
    (∀ rest, oddQuotes (text ++ rest) = oddQuotes rest) ∧ ('\x7b' ∈ text → text = ['\x7b']) := by
  cases spelled with
  | plain printable unquoted unescaped =>
    exact ⟨oddQuotes_plain unquoted unescaped, fun member => by rw [List.mem_singleton.mp member]⟩
  | short stands brief =>
    refine ⟨fun rest => rfl, fun member => ?_⟩
    have escape := List.mem_singleton.mp (List.mem_of_ne_of_mem (by decide) member)
    exact nomatch escape ▸ stands
  | unit control =>
    obtain ⟨unquoted, unescaped, braceless⟩ := @hexDigit_plain (c.toNat / 16) (by omega)
    obtain ⟨unquoted', unescaped', braceless'⟩ := @hexDigit_plain (c.toNat % 16) (by omega)
    refine ⟨fun rest => ?_, fun member => ?_⟩
    · have zeros : ∀ cs, oddQuotes ('\\' :: 'u' :: '0' :: '0' :: cs) = oddQuotes cs := fun _ => rfl
      simp only [List.cons_append, List.nil_append]
      rw [zeros, oddQuotes_plain unquoted unescaped, oddQuotes_plain unquoted' unescaped']
    · simp [braceless.symm, braceless'.symm] at member

/-- The quotes of a text are paired, and its braces are inside. -/
structure Enclosed (text : List Char) : Prop where
  paired : ∀ rest, oddQuotes (text ++ rest) = oddQuotes rest
  braces : BracesInside text

namespace Enclosed

theorem nil : Enclosed [] where
  paired _ := rfl
  braces front _ _ _ := .inl ⟨front, rfl⟩

theorem cons {c : Char} {text : List Char} (plain : c ≠ '"' ∧ c ≠ '\\' ∧ c ≠ '\x7b')
    (enclosed : Enclosed text) : Enclosed (c :: text) where
  paired rest := by
    rw [List.cons_append, oddQuotes_plain plain.1 plain.2.1, enclosed.paired]
  braces := .append (fun member => plain.2.2 (List.mem_singleton.mp member).symm) enclosed.braces

/-- The rest of a string literal in front of a text: one more quote, and braces only in it. -/
theorem literal {text : List Char} (enclosed : Enclosed text) (cs : List Char) :
    (∀ rest, oddQuotes (cs.flatMap charText ++ '"' :: text ++ rest) = !oddQuotes rest) ∧
      BracesInside (cs.flatMap charText ++ '"' :: text) := by
  induction cs with
  | nil =>
    refine ⟨fun rest => congrArg not (enclosed.paired rest), ?_⟩
    exact @BracesInside.append ['"'] text (by decide) enclosed.braces
  | cons c cs ih =>
    obtain ⟨odd, inside⟩ := ih
    obtain ⟨quotes, brace⟩ := (spelled_charText c).quotes
    refine ⟨fun rest => ?_, ?_⟩
    · rw [← odd rest, List.flatMap_cons, List.append_assoc, List.append_assoc, quotes,
        List.append_assoc]
    rw [List.flatMap_cons, List.append_assoc]
    by_cases member : '\x7b' ∈ charText c
    · -- A brace in the literal has the closing quote behind it.
      rw [brace member]
      intro front back rest shape
      cases front with
      | nil =>
        refine .inr (.inl ?_)
        have tail : cs.flatMap charText ++ '"' :: text ++ rest = back := (List.cons.inj shape).2
        rw [← tail, odd]
        exact Bool.not_eq.mp (Bool.not_not _)
      | cons d front =>
        obtain ⟨rfl, shape'⟩ := List.cons.inj shape
        rcases inside front back rest shape' with ⟨between, rfl⟩ | later
        · exact .inl ⟨between, rfl⟩
        · exact .inr later
    · exact .append member inside

theorem string {text : List Char} (enclosed : Enclosed text) (s : String) :
    Enclosed (stringText s ++ text) := by
  obtain ⟨odd, inside⟩ := enclosed.literal s.toList
  have shape : stringText s ++ text = '"' :: (s.toList.flatMap charText ++ '"' :: text) := by
    simp [stringText]
  rw [shape]
  refine ⟨fun rest => ?_, @BracesInside.append ['"'] _ (by decide) inside⟩
  rw [List.cons_append, oddQuotes, odd, Bool.not_not]

theorem object {members : List (String × Value)} {body text : List Char}
    (written : compact (.object members) = '\x7b' :: body)
    (worded : membersAreWorded members = true)
    (nonempty : text ≠ []) (enclosed : Enclosed (body ++ text)) :
    Enclosed ('\x7b' :: (body ++ text)) where
  paired rest := by
    rw [List.cons_append, oddQuotes_plain (by decide) (by decide), enclosed.paired]
  braces := by
    intro front back rest shape
    cases front with
    | nil =>
      refine .inr (.inr ⟨.object members, text, worded, nonempty, ?_⟩)
      rw [← List.nil_append ('\x7b' :: back), ← shape, written, List.cons_append, List.cons_append,
        List.append_assoc]
    | cons d front =>
      obtain ⟨rfl, shape'⟩ := List.cons.inj shape
      rcases enclosed.braces front back rest shape' with ⟨between, rfl⟩ | later
      · exact .inl ⟨between, rfl⟩
      · exact .inr later

end Enclosed

mutual

private theorem enclosed_compact : ∀ value : Value, value.isWorded = true → ∀ text : List Char,
    text ≠ [] → Enclosed text → Enclosed (compact value ++ text)
  | .null, _, text, _, enclosed => by
    exact (((enclosed.cons (by decide)).cons (by decide)).cons (by decide)).cons (by decide)
  | .bool true, _, text, _, enclosed => by
    exact (((enclosed.cons (by decide)).cons (by decide)).cons (by decide)).cons (by decide)
  | .bool false, _, text, _, enclosed => by
    exact ((((enclosed.cons (by decide)).cons (by decide)).cons (by decide)).cons
      (by decide)).cons (by decide)
  | .string s, _, text, _, enclosed => enclosed.string s
  | .array [], _, text, _, enclosed => (enclosed.cons (by decide)).cons (by decide)
  | .array (item :: items), worded, text, nonempty, enclosed => by
    obtain ⟨head, worded'⟩ := Bool.and_eq_true_iff.mp worded
    have behind := enclosed_compactItems items worded' text enclosed
    rw [compact, List.append_assoc]
    exact (enclosed_compact item head _ (by simp [nonempty]) behind).cons (by decide)
  | .object members, worded, text, nonempty, enclosed => by
    obtain ⟨body, written, inside⟩ := enclosed_body members worded
    rw [written]
    exact (inside text enclosed).object written worded nonempty

private theorem enclosed_compactItems : ∀ items : List Value, itemsAreWorded items = true →
    ∀ text : List Char, Enclosed text → Enclosed (compactItems items ++ text)
  | [], _, _, enclosed => enclosed.cons (by decide)
  | item :: items, worded, text, enclosed => by
    obtain ⟨head, worded'⟩ := Bool.and_eq_true_iff.mp worded
    have behind := enclosed_compactItems items worded' text enclosed
    have follows := List.ne_nil_of_length_pos (compactItems_pos items)
    rw [compactItems, List.append_assoc]
    exact (enclosed_compact item head _ (by simp [follows]) behind).cons (by decide)

private theorem enclosed_compactMembers : ∀ members : List (String × Value),
    membersAreWorded members = true →
    ∀ text : List Char, Enclosed text → Enclosed (compactMembers members ++ text)
  | [], _, _, enclosed => enclosed.cons (by decide)
  | (name, value) :: members, worded, text, enclosed => by
    obtain ⟨head, worded'⟩ := Bool.and_eq_true_iff.mp worded
    have behind := enclosed_compactMembers members worded' text enclosed
    have follows := List.ne_nil_of_length_pos (compactMembers_pos members)
    have named := ((enclosed_compact value head _ (by simp [follows]) behind).cons
      (c := ':') (by decide)).string name
    simp only [compactMembers, List.append_assoc, List.cons_append]
    exact named.cons (by decide)

private theorem enclosed_body : ∀ members : List (String × Value), membersAreWorded members = true →
    ∃ body, compact (.object members) = '\x7b' :: body ∧
      ∀ text : List Char, Enclosed text → Enclosed (body ++ text)
  | [], _ => ⟨_, rfl, fun _ enclosed => enclosed.cons (by decide)⟩
  | (name, value) :: members, worded => by
    obtain ⟨head, worded'⟩ := Bool.and_eq_true_iff.mp worded
    have follows := List.ne_nil_of_length_pos (compactMembers_pos members)
    refine ⟨stringText name ++ ':' :: compact value ++ compactMembers members, rfl,
      fun text enclosed => ?_⟩
    have behind := enclosed_compactMembers members worded' text enclosed
    have named := ((enclosed_compact value head _ (by simp [follows]) behind).cons
      (c := ':') (by decide)).string name
    simpa only [List.append_assoc, List.cons_append] using named

end

/-- No object ends with the text of another object. -/
theorem front_nil_of_compact {members members' : List (String × Value)}
    (worded : membersAreWorded members = true) (worded' : membersAreWorded members' = true)
    {front : List Char}
    (ends : compact (.object members) = front ++ compact (.object members')) : front = [] := by
  obtain ⟨body, written, inside⟩ := enclosed_body members worded
  obtain ⟨body', written', inside'⟩ := enclosed_body members' worded'
  have enclosed : Enclosed body := by simpa using inside [] .nil
  have even := (inside' [] .nil).paired []
  rw [List.append_nil, List.append_nil] at even
  cases front with
  | nil => rfl
  | cons c front =>
    rw [written, written'] at ends
    have shape : body ++ [] = front ++ '\x7b' :: body' := by
      rw [List.append_nil]
      exact (List.cons.inj ends).2
    rcases enclosed.braces front body' [] shape with
      ⟨between, rfl⟩ | odd | ⟨inner, more, wordedInner, later, same⟩
    · simp at shape
    · exact absurd even odd
    · have whole : compact (.object members') ++ [] = compact inner ++ more := by
        rwa [List.append_nil, written', ← List.append_nil more]
      have cancel := @compact_cancel (.object members') inner worded' wordedInner [] more whole
      exact absurd cancel.1.symm later

end EdgePolicy.Json
