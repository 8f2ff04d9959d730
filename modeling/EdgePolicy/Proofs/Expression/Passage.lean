import EdgePolicy.Expression.Literal
import EdgePolicy.Proofs.Expression.Depth

/-
Moving the scanner over written text.

A passage is a move of the scanner over a text in which no separator begins, whatever follows the
text.  Passages compose, so a written expression can be followed piece by piece.  `Crosses` says
that a text leads the scanner from any place outside literals back to the same depth;
`piecesFrom_intercalate` says that such texts, joined by separators, split into themselves.
-/

set_option autoImplicit false
set_option relaxedAutoImplicit false

namespace EdgePolicy.Expression

open Text (expect? expect?_append expect?_eq_some isAsciiBlank)

/-- From one place of the scanner to another over a text in which no separator begins. -/
inductive Passes (keyword : List Char) : Scanner → List Char → Scanner → Prop
  | done (scanner : Scanner) : Passes keyword scanner [] scanner
  | step {scanner next last : Scanner} {c : Char} {cs : List Char}
      (move : scanner.step c = some next)
      (quiet : ∀ rest, separatorHere? keyword scanner (c :: (cs ++ rest)) = none)
      (tail : Passes keyword next cs last) : Passes keyword scanner (c :: cs) last

section Passages

variable {keyword : List Char} {scanner middle last : Scanner} {u v : List Char}

theorem Passes.append (first : Passes keyword scanner u middle)
    (second : Passes keyword middle v last) : Passes keyword scanner (u ++ v) last := by
  induction first with
  | done scanner => exact second
  | @step scanner next middle c cs move quiet tail ih =>
    rw [List.cons_append]
    refine .step move (fun rest => ?_) (ih second)
    rw [List.append_assoc]
    exact quiet (v ++ rest)

theorem Passes.run (passage : Passes keyword scanner u last) : scanner.run u = some last := by
  induction passage with
  | done scanner => rfl
  | step move quiet tail ih => simp [Scanner.run, move, ih]

theorem piecesFrom_append (passage : Passes keyword scanner u last) (rest : List Char) :
    piecesFrom keyword scanner (u ++ rest) =
      (piecesFrom keyword last rest).map (u.foldr consPiece ·) := by
  induction passage with
  | done scanner => cases h : piecesFrom keyword scanner rest <;> simp [h, Except.map]
  | @step scanner next last c cs move quiet tail ih =>
    rw [List.cons_append, piecesFrom]
    split
    · next after found => simp [quiet rest] at found
    · next unseparated =>
      simp only [move, ih]
      cases piecesFrom keyword last rest <;> rfl

theorem separatorHere?_inside (inside : scanner.atTopLevel = false) (cs : List Char) :
    separatorHere? keyword scanner cs = none := by
  simp [separatorHere?, inside]

theorem separatorHere?_of_notBlank {c : Char} (notBlank : isAsciiBlank c = false)
    (cs : List Char) : separatorHere? keyword scanner (c :: cs) = none := by
  unfold separatorHere?
  split
  · simp [afterSeparator?, notBlank]
  · rfl

end Passages

/-- What holds of the letters of a word is decided letter by letter. -/
instance (priority := 2000) decidableForallLetters (p : Char → Prop) [DecidablePred p]
    (cs : List Char) : Decidable (∀ c ∈ cs, p c) :=
  List.decidableBAll p cs

/-- Outside literals, at a depth. -/
structure Scanner.Outside (depth : Nat) (scanner : Scanner) : Prop where
  literal : scanner.literal = none
  escaped : scanner.escaped = false
  level_eq : scanner.level = depth

theorem Scanner.outside_start : Scanner.start.Outside 0 := ⟨rfl, rfl, rfl⟩

theorem Scanner.Outside.atTopLevel {scanner : Scanner} (outside : scanner.Outside 0) :
    scanner.atTopLevel = true :=
  Scanner.atTopLevel_iff.mpr ⟨outside.literal, outside.level_eq⟩

/-- A text that leads the scanner from any place outside literals back to the same depth. -/
def Crosses (keyword : List Char) (depth : Nat) (cs : List Char) : Prop :=
  ∀ scanner : Scanner, scanner.Outside depth →
    ∃ last, last.Outside depth ∧ Passes keyword scanner cs last

/-- A text that does not begin with the keyword as a word of its own. -/
def Unlike (keyword cs : List Char) : Prop :=
  ∀ rest, afterSeparator? keyword (' ' :: (cs ++ rest)) = none

def isSolid (c : Char) : Bool := isPlain c && !isAsciiBlank c

theorem isAsciiBlank_of_isSolid {c : Char} (solid : isSolid c = true) : isAsciiBlank c = false := by
  simp only [isSolid, Bool.and_eq_true, Bool.not_eq_true'] at solid
  exact solid.2

theorem Unlike.append {keyword u : List Char} (unlike : Unlike keyword u) (v : List Char) :
    Unlike keyword (u ++ v) := by
  intro rest
  rw [List.append_assoc]
  exact unlike (v ++ rest)

section Crossings

variable {keyword : List Char} {depth : Nat} {u v : List Char}

theorem Crosses.nil : Crosses keyword depth [] :=
  fun scanner outside => ⟨scanner, outside, .done scanner⟩

theorem Crosses.append (first : Crosses keyword depth u) (second : Crosses keyword depth v) :
    Crosses keyword depth (u ++ v) := by
  intro scanner outside
  obtain ⟨middle, outside', passage⟩ := first scanner outside
  obtain ⟨last, outside'', passage'⟩ := second middle outside'
  exact ⟨last, outside'', passage.append passage'⟩

theorem Scanner.step_plain {scanner : Scanner} {c : Char} (outside : scanner.Outside depth)
    (plain : isPlain c = true) : scanner.step c = some (scanner.remember c) :=
  Scanner.step_of_isPlain outside.literal plain

theorem Scanner.Outside.remember {scanner : Scanner} (outside : scanner.Outside depth) (c : Char) :
    (scanner.remember c).Outside depth :=
  ⟨outside.literal, outside.escaped, outside.level_eq⟩

theorem Crosses.solid_cons {c : Char} {cs : List Char} (solid : isSolid c = true)
    (tail : Crosses keyword depth cs) : Crosses keyword depth (c :: cs) := by
  intro scanner outside
  simp only [isSolid, Bool.and_eq_true, Bool.not_eq_true'] at solid
  obtain ⟨last, outside', passage⟩ := tail (scanner.remember c) (outside.remember c)
  exact ⟨last, outside', .step (Scanner.step_plain outside solid.1)
    (fun rest => separatorHere?_of_notBlank solid.2 _) passage⟩

theorem Crosses.solid {cs : List Char} (solid : ∀ c ∈ cs, isSolid c = true) :
    Crosses keyword depth cs := by
  induction cs with
  | nil => exact .nil
  | cons c cs ih =>
    exact .solid_cons (solid c List.mem_cons_self)
      (ih fun d member => solid d (List.mem_cons_of_mem c member))

theorem separatorHere?_of_unlike {scanner : Scanner} {cs : List Char}
    (unlike : Unlike keyword cs) (rest : List Char) :
    separatorHere? keyword scanner (' ' :: (cs ++ rest)) = none := by
  unfold separatorHere?
  split
  · exact unlike rest
  · rfl

theorem Crosses.blank {cs : List Char} (unlike : Unlike keyword cs)
    (tail : Crosses keyword depth cs) : Crosses keyword depth (' ' :: cs) := by
  intro scanner outside
  obtain ⟨last, outside', passage⟩ := tail (scanner.remember ' ') (outside.remember ' ')
  exact ⟨last, outside', .step (Scanner.step_plain outside (by decide))
    (separatorHere?_of_unlike unlike) passage⟩

/-- Parentheses close what they open, if the text between them leads from behind the opening one to
the same depth. -/
theorem passes_parenthesized {scanner : Scanner} (outside : scanner.Outside depth)
    (room : depth < deepest)
    (inner : ∀ opened : Scanner, opened.Outside (depth + 1) → opened.last = some '(' →
      ∃ middle, middle.Outside (depth + 1) ∧ Passes keyword opened u middle) :
    ∃ last, last.Outside depth ∧ Passes keyword scanner ('(' :: u ++ [')']) last := by
  obtain ⟨opened, opens, moves⟩ :=
    Scanner.step_open outside.literal (outside.level_eq ▸ room)
  have outside_opened : opened.Outside (depth + 1) :=
    ⟨moves.literal.trans outside.literal, moves.escaped.trans outside.escaped,
      moves.level_eq.trans (congrArg (· + 1) outside.level_eq)⟩
  obtain ⟨middle, outside_middle, passage⟩ := inner opened outside_opened moves.last
  obtain ⟨closed, closes, moves'⟩ :=
    Scanner.step_close outside_middle.literal outside_middle.level_eq
  have closing : Passes keyword middle [')'] closed :=
    .step closes (fun rest => separatorHere?_of_notBlank (by decide) _) (.done closed)
  refine ⟨closed, ⟨moves'.literal.trans outside_middle.literal,
    moves'.escaped.trans outside_middle.escaped, moves'.level_eq⟩, ?_⟩
  exact .step opens (fun rest => separatorHere?_of_notBlank (by decide) _)
    (passage.append closing)

theorem Crosses.parenthesized (room : depth < deepest) (inner : Crosses keyword (depth + 1) u) :
    Crosses keyword depth ('(' :: u ++ [')']) :=
  fun _ outside => passes_parenthesized outside room fun opened outside_opened _ =>
    inner opened outside_opened

end Crossings

/-- A keyword is a word of letters. -/
structure IsKeyword (keyword : List Char) : Prop where
  nonempty : keyword ≠ []
  letters : ∀ c ∈ keyword, c.isAlpha = true

theorem isKeyword_orWord : IsKeyword orWord := ⟨by decide, by decide⟩

theorem isKeyword_andWord : IsKeyword andWord := ⟨by decide, by decide⟩

theorem isAsciiBlank_of_isAlpha {c : Char} (letter : c.isAlpha = true) :
    isAsciiBlank c = false := by
  rw [← Bool.not_eq_true]
  intro blank
  simp only [isAsciiBlank, Bool.or_eq_true, beq_iff_eq] at blank
  rcases blank with (((rfl | rfl) | rfl) | rfl) | rfl <;> revert letter <;> decide

namespace IsKeyword

variable {keyword : List Char}

theorem not_blank (word : IsKeyword keyword) {c : Char} (member : c ∈ keyword) :
    isAsciiBlank c = false :=
  isAsciiBlank_of_isAlpha (word.letters c member)

theorem unlike (word : IsKeyword keyword) (token : List Char) {tail : List Char} {stop : Char}
    (notBlank : ∀ c ∈ token, isAsciiBlank c = false) (other : token ≠ keyword)
    (stops : stop.isAlpha = false) (begins : token = [] → isAsciiBlank stop = false) :
    Unlike keyword (token ++ stop :: tail) := by
  intro rest
  have stands : (token ++ stop :: (tail ++ rest)).dropWhile isAsciiBlank =
      token ++ stop :: (tail ++ rest) := by
    cases token with
    | nil => simp [begins rfl]
    | cons c cs => simp [notBlank c]
  simp only [afterSeparator?, List.append_assoc, List.cons_append, stands]
  split
  · split
    · next d after found =>
      have same := expect?_eq_some found
      rw [List.append_eq_append_iff] at same
      -- One of the token and the keyword goes on behind the end of the other.
      have unblank : isAsciiBlank d = false := by
        rcases same with ⟨more, rfl, tail_eq⟩ | ⟨more, rfl, tail_eq⟩
        · cases more with
          | nil => simp at other
          | cons k ks =>
            obtain rfl : stop = k := (List.cons.inj tail_eq).1
            simp [word.letters stop (by simp)] at stops
        · cases more with
          | nil => simp at other
          | cons k ks =>
            obtain rfl : d = k := (List.cons.inj tail_eq).1
            exact notBlank d (by simp)
      simp [unblank]
    · rfl
  · rfl

theorem unlike_of_head {k : Char} {ks : List Char} {c : Char} {cs : List Char} (other : c ≠ k)
    (notBlank : isAsciiBlank c = false) : Unlike (k :: ks) (c :: cs) := by
  intro rest
  simp [afterSeparator?, notBlank, expect?, Ne.symm other]

end IsKeyword

section Literals

variable {keyword : List Char} {depth : Nat}

/-- Inside a literal of a kind, with no escape pending. -/
structure Scanner.Within (kind : LiteralKind) (depth : Nat) (scanner : Scanner) : Prop where
  literal : scanner.literal = some kind
  escaped : scanner.escaped = false
  level_eq : scanner.level = depth

theorem Scanner.Within.inside {kind : LiteralKind} {scanner : Scanner}
    (within : scanner.Within kind depth) : scanner.atTopLevel = false := by
  simp [Scanner.atTopLevel, within.literal]

private theorem passes_escape_cons {scanner : Scanner} (quoted : scanner.Within .quoted depth)
    (c : Char) {cs : List Char} (tail : ∀ next : Scanner, next.Within .quoted depth →
      ∃ last, last.Outside depth ∧ Passes keyword next cs last) :
    ∃ last, last.Outside depth ∧
      Passes keyword scanner (if c = '"' ∨ c = '\\' then '\\' :: c :: cs else c :: cs) last := by
  by_cases special : c = '"' ∨ c = '\\'
  · let pending : Scanner := { scanner.remember '\\' with escaped := true }
    let next : Scanner := { pending.remember c with escaped := false }
    have first : scanner.step '\\' = some pending := by
      simp [Scanner.step, quoted.literal, quoted.escaped, pending]
    have second : pending.step c = some next := by
      simp [Scanner.step, Scanner.remember, quoted.literal, pending, next]
    have inside : pending.atTopLevel = false := by
      simp [Scanner.atTopLevel, Scanner.remember, quoted.literal, pending]
    obtain ⟨last, outside, passage⟩ := tail next ⟨quoted.literal, rfl, quoted.level_eq⟩
    refine ⟨last, outside, ?_⟩
    rw [if_pos special]
    exact .step first (fun _ => separatorHere?_inside quoted.inside _)
      (.step second (fun _ => separatorHere?_inside inside _) passage)
  · obtain ⟨notQuote, notBackslash⟩ := not_or.mp special
    have first : scanner.step c = some (scanner.remember c) := by
      simp [Scanner.step, quoted.literal, quoted.escaped, notQuote, notBackslash]
    obtain ⟨last, outside, passage⟩ :=
      tail (scanner.remember c) ⟨quoted.literal, quoted.escaped, quoted.level_eq⟩
    refine ⟨last, outside, ?_⟩
    rw [if_neg special]
    exact .step first (fun _ => separatorHere?_inside quoted.inside _) passage

private theorem passes_escape (value : List Char) {scanner : Scanner}
    (quoted : scanner.Within .quoted depth) :
    ∃ last, last.Outside depth ∧ Passes keyword scanner (escape value ++ ['"']) last := by
  induction value generalizing scanner with
  | nil =>
    let last : Scanner := { scanner.remember '"' with literal := none }
    have closes : scanner.step '"' = some last := by
      simp [Scanner.step, quoted.literal, quoted.escaped, last]
    exact ⟨last, ⟨rfl, quoted.escaped, quoted.level_eq⟩,
      .step closes (fun _ => separatorHere?_inside quoted.inside _) (.done last)⟩
  | cons c cs ih =>
    have written := passes_escape_cons quoted c fun _ next_quoted => ih next_quoted
    rw [escape]
    split <;> simpa [*] using written

theorem Crosses.quoted (word : IsKeyword keyword) {c : Char} (plain : isPlain c = true)
    (notRaw : c ≠ 'r') (gap : isAsciiBlank c = true → c = ' ') (value : List Char) :
    Crosses keyword depth (c :: Expression.quoted value) := by
  intro scanner outside
  let before : Scanner := scanner.remember c
  let inner : Scanner := { before.remember '"' with literal := some .quoted }
  have quiet : ∀ rest, separatorHere? keyword scanner (c :: (Expression.quoted value ++ rest)) =
      none := by
    intro rest
    by_cases blank : isAsciiBlank c = true
    · obtain rfl := gap blank
      exact separatorHere?_of_unlike
        (word.unlike [] (by simp) word.nonempty.symm (by decide) (fun _ => by decide)) rest
    · exact separatorHere?_of_notBlank (by simpa using blank) _
  have opens : before.step '"' = some inner := by
    simp [Scanner.step, Scanner.opensRaw, before, inner, notRaw, Scanner.remember,
      outside.literal]
  have quoted : inner.Within .quoted depth := ⟨rfl, outside.escaped, outside.level_eq⟩
  obtain ⟨last, outside_last, passage⟩ := passes_escape value quoted
  refine ⟨last, outside_last, .step (Scanner.step_plain outside plain) quiet ?_⟩
  exact .step opens (fun _ => separatorHere?_of_notBlank (by decide) _) passage

private theorem passes_raw (value : List Char) (noQuote : '"' ∉ value) {scanner : Scanner}
    (raw : scanner.Within .raw depth) :
    ∃ last, last.Outside depth ∧ Passes keyword scanner (value ++ ['"']) last := by
  induction value generalizing scanner with
  | nil =>
    let last : Scanner := { scanner.remember '"' with literal := none }
    have closes : scanner.step '"' = some last := by simp [Scanner.step, raw.literal, last]
    exact ⟨last, ⟨rfl, raw.escaped, raw.level_eq⟩,
      .step closes (fun _ => separatorHere?_inside raw.inside _) (.done last)⟩
  | cons c cs ih =>
    simp only [List.mem_cons, not_or] at noQuote
    have stays : scanner.step c = some (scanner.remember c) := by
      simp [Scanner.step, raw.literal, Ne.symm noQuote.1]
    have raw_next : (scanner.remember c).Within .raw depth :=
      ⟨raw.literal, raw.escaped, raw.level_eq⟩
    obtain ⟨last, outside, passage⟩ := ih noQuote.2 raw_next
    exact ⟨last, outside, .step stays (fun _ => separatorHere?_inside raw.inside _) passage⟩

theorem Crosses.raw (word : IsKeyword keyword) {value : List Char} (noQuote : '"' ∉ value)
    (other : keyword ≠ ['r']) :
    Crosses keyword depth (' ' :: 'r' :: '"' :: value ++ ['"']) := by
  intro scanner outside
  let before : Scanner := (scanner.remember ' ').remember 'r'
  let inner : Scanner := { before.remember '"' with literal := some .raw }
  have opens : before.step '"' = some inner := by
    simp [Scanner.step, Scanner.opensRaw, before, inner, Scanner.remember, outside.literal,
      Scanner.startsToken, isAsciiBlank]
  have raw : inner.Within .raw depth := ⟨rfl, outside.escaped, outside.level_eq⟩
  obtain ⟨last, outside_last, passage⟩ := passes_raw value noQuote raw
  have unlike : Unlike keyword ('r' :: '"' :: (value ++ ['"'])) :=
    word.unlike ['r'] (by decide) (Ne.symm other) (by decide) (by decide)
  refine ⟨last, outside_last, .step (Scanner.step_plain outside (by decide))
    (separatorHere?_of_unlike unlike) ?_⟩
  refine .step (Scanner.step_plain (outside.remember ' ') (by decide))
    (fun _ => separatorHere?_of_notBlank (by decide) _) ?_
  exact .step opens (fun _ => separatorHere?_of_notBlank (by decide) _) passage

end Literals

/-- A written separator: the keyword between two blanks. -/
def separator (keyword : List Char) : List Char := ' ' :: keyword ++ [' ']

section Splitting

variable {keyword : List Char}

theorem foldr_consPiece (cs piece : List Char) (pieces : List (List Char)) :
    cs.foldr consPiece (piece :: pieces) = (cs ++ piece) :: pieces := by
  induction cs with
  | nil => rfl
  | cons c cs ih => simp [ih, consPiece]

private theorem afterSeparator?_separator (word : IsKeyword keyword) {rest : List Char}
    (solid : ∀ c, rest.head? = some c → isAsciiBlank c = false) :
    afterSeparator? keyword (separator keyword ++ rest) = some rest := by
  have unblanked : ∀ cs : List Char, (∀ c, cs.head? = some c → isAsciiBlank c = false) →
      cs.dropWhile isAsciiBlank = cs := by
    intro cs head
    cases cs with
    | nil => rfl
    | cons c cs => simp [head c rfl]
  have stands : (keyword ++ ' ' :: rest).dropWhile isAsciiBlank = keyword ++ ' ' :: rest := by
    apply unblanked
    intro c found
    obtain ⟨k, ks, rfl⟩ := List.exists_cons_of_ne_nil word.nonempty
    obtain rfl : k = c := by simpa using found
    exact word.not_blank List.mem_cons_self
  simp only [separator, List.cons_append, List.append_assoc, List.nil_append]
  simp only [afterSeparator?, stands, expect?_append, unblanked rest solid]
  simp [isAsciiBlank]

theorem piecesFrom_nil {scanner : Scanner} (outside : scanner.Outside 0) :
    piecesFrom keyword scanner [] = .ok [[]] := by
  rw [piecesFrom]
  split
  · next after found => simp [separatorHere?, afterSeparator?] at found
  · simp [outside.atTopLevel]

/-- Texts that the scanner crosses, joined by separators, split into themselves. -/
theorem piecesFrom_intercalate (word : IsKeyword keyword) (first : List Char)
    (others : List (List Char)) (crosses : ∀ text ∈ first :: others, Crosses keyword 0 text)
    (solid : ∀ text ∈ others, ∃ c cs, text = c :: cs ∧ isAsciiBlank c = false)
    {scanner : Scanner} (outside : scanner.Outside 0) :
    piecesFrom keyword scanner ((separator keyword).intercalate (first :: others)) =
      .ok (first :: others) := by
  induction others generalizing first scanner with
  | nil =>
    obtain ⟨last, outside', passage⟩ := crosses first List.mem_cons_self scanner outside
    have whole := piecesFrom_append passage []
    rw [piecesFrom_nil outside'] at whole
    simpa [Except.map, foldr_consPiece] using whole
  | cons second others ih =>
    obtain ⟨last, outside', passage⟩ := crosses first List.mem_cons_self scanner outside
    have rest := ih second (fun text member => crosses text (List.mem_cons_of_mem first member))
      (fun text member => solid text (List.mem_cons_of_mem second member)) outside'
    let tail := (separator keyword).intercalate (second :: others)
    have head : ∀ c, tail.head? = some c → isAsciiBlank c = false := by
      obtain ⟨c, cs, rfl, notBlank⟩ := solid second List.mem_cons_self
      intro d found
      obtain rfl : c = d := by
        cases others <;> simpa [tail, List.intercalate, List.intersperse] using found
      exact notBlank
    -- Behind the first text the scanner stands at a separator, and starts a new piece there.
    have here : separatorHere? keyword last (separator keyword ++ tail) = some tail := by
      simp [separatorHere?, outside'.atTopLevel, afterSeparator?_separator word head]
    have split : piecesFrom keyword last (separator keyword ++ tail) =
        .ok ([] :: second :: others) := by
      rw [piecesFrom]
      split
      · next after found =>
        obtain rfl : tail = after := Option.some.inj (here.symm.trans found)
        rw [rest]
        rfl
      · next found => simp [here] at found
    have shape : (separator keyword).intercalate (first :: second :: others) =
        first ++ (separator keyword ++ tail) := by
      simp [tail, List.intercalate, List.intersperse]
    rw [shape, piecesFrom_append passage, split]
    simp [Except.map, foldr_consPiece]

theorem Crosses.intercalate {depth : Nat} {other : List Char} (word : IsKeyword keyword)
    (solid : ∀ c ∈ other, isSolid c = true) (distinct : other ≠ keyword)
    (nonempty : other ≠ []) {texts : List (List Char)}
    (crosses : ∀ text ∈ texts, Crosses keyword depth text ∧ Unlike keyword text) :
    Crosses keyword depth ((separator other).intercalate texts) := by
  induction texts with
  | nil => exact .nil
  | cons first others ih =>
    obtain ⟨head, -⟩ := crosses first List.mem_cons_self
    cases others with
    | nil => simpa [List.intercalate] using head
    | cons second others =>
      let tail := (separator other).intercalate (second :: others)
      have crosses_tail : Crosses keyword depth tail :=
        ih fun text member => crosses text (List.mem_cons_of_mem first member)
      have unlike_tail : Unlike keyword tail := by
        obtain ⟨-, unlike⟩ := crosses second (by simp)
        cases others with
        | nil => simpa [tail, List.intercalate] using unlike
        | cons third others =>
          simpa [tail, List.intercalate, List.intersperse] using unlike.append _
      have crosses_word : Crosses keyword depth (' ' :: (other ++ ' ' :: tail)) := by
        refine .blank (word.unlike other ?_ distinct (by decide) ?_) ?_
        · exact fun c member => isAsciiBlank_of_isSolid (solid c member)
        · exact fun empty => absurd empty nonempty
        · exact (Crosses.solid solid).append (.blank unlike_tail crosses_tail)
      have shape : (separator other).intercalate (first :: second :: others) =
          first ++ ' ' :: (other ++ ' ' :: tail) := by
        simp [tail, List.intercalate, List.intersperse, separator]
      rw [shape]
      exact head.append crosses_word

end Splitting

end EdgePolicy.Expression
