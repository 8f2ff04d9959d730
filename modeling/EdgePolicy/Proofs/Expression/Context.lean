import Mathlib.Data.List.TakeWhile
import EdgePolicy.Proofs.Expression.Accounting

/-
A text that is scanned behind others.

The scanner remembers two characters, so behind other texts it may open another kind of literal than
at the beginning.  `Alike` relates the scanner that reads a text alone to the one that reads it in
its place: they are in the same literal, or in literals of different kinds that end at the same
quote.  Each step keeps them alike (`Alike.step`), so a text without a separator of its own is read
in its place as it is alone.
-/

set_option autoImplicit false
set_option relaxedAutoImplicit false

namespace EdgePolicy.Expression

open Text (isAsciiBlank)

namespace Scanner

/-- The next quote closes a quoted literal; an escape may be pending. -/
def closesNext : Bool → List Char → Bool
  | _, [] => false
  | escaped, c :: cs => if c = '"' then !escaped else closesNext (!escaped && c == '\\') cs

/-- Two scanners read the literal that a text begins with alike, if there is one: they open it in
the same kind, or it ends at the same quote in either kind. -/
def opensAlike (first second : Scanner) : List Char → Bool
  | '"' :: inside => first.opensRaw == second.opensRaw || closesNext false inside
  | 'r' :: '"' :: inside =>
    (first.remember 'r').opensRaw == (second.remember 'r').opensRaw || closesNext false inside
  | _ => true

/-- The scanner is in a literal that ends at the next quote. -/
def ClosesIn (scanner : Scanner) (cs : List Char) : Prop :=
  match scanner.literal with
  | none => False
  | some .raw => scanner.escaped = false
  | some .quoted => closesNext scanner.escaped cs = true

def Calm (scanner : Scanner) : Prop := scanner.escaped = true → scanner.literal = some .quoted

/-- The scanner that reads a text in its place stands as the one that reads it alone, some
parentheses deeper. -/
structure Alike (depth : Nat) (alone placed : Scanner) (cs : List Char) : Prop where
  calm : alone.Calm
  deeper : placed.level = alone.level + depth
  opens : opensAlike placed alone cs = true
  inside : placed.literal = alone.literal ∧ placed.escaped = alone.escaped ∨
    alone.ClosesIn cs ∧ placed.ClosesIn cs

variable {scanner next other alone placed : Scanner} {c : Char} {cs : List Char} {depth : Nat}

theorem step_of_quoted (quoted : scanner.literal = some .quoted) :
    scanner.step c = some { scanner.remember c with
      escaped := !scanner.escaped && c == '\\'
      literal := if c = '"' ∧ scanner.escaped = false then none else some .quoted } := by
  rcases escaped : scanner.escaped
  · by_cases backslash : c = '\\'
    · simp [step, remember, quoted, escaped, backslash]
    · by_cases quote : c = '"' <;> simp [step, remember, quoted, escaped, backslash, quote]
  · simp [step, remember, quoted, escaped]

theorem step_of_raw (raw : scanner.literal = some .raw) :
    scanner.step c = some { scanner.remember c with
      literal := if c = '"' then none else some .raw } := by
  by_cases quote : c = '"' <;> simp [step, remember, raw, quote]

theorem step_memory (move : scanner.step c = some next) :
    next.last = some c ∧ next.beforeLast = scanner.last := by
  cases inside : scanner.literal with
  | some kind =>
    cases kind with
    | quoted =>
      rw [step_of_quoted inside] at move
      obtain rfl := Option.some.inj move
      exact ⟨rfl, rfl⟩
    | raw =>
      rw [step_of_raw inside] at move
      obtain rfl := Option.some.inj move
      exact ⟨rfl, rfl⟩
  | none =>
    rcases step_outside inside move with ⟨-, rfl⟩ | ⟨-, moves⟩ | ⟨outer, -, -, moves⟩ | ⟨-, rfl⟩
    · exact ⟨rfl, rfl⟩
    · exact ⟨moves.last, moves.beforeLast⟩
    · exact ⟨moves.last, moves.beforeLast⟩
    · exact ⟨rfl, rfl⟩

theorem calm_start : start.Calm := nofun

theorem Calm.unescaped (calm : scanner.Calm) (outside : scanner.literal = none) :
    scanner.escaped = false := by
  rw [← Bool.not_eq_true]
  intro escaped
  cases outside.symm.trans (calm escaped)

theorem Calm.step (calm : scanner.Calm) (move : scanner.step c = some next) : next.Calm := by
  cases inside : scanner.literal with
  | some kind =>
    cases kind with
    | quoted =>
      rw [step_of_quoted inside] at move
      obtain rfl := Option.some.inj move
      intro escaped
      have backslash : c = '\\' := by simp_all
      simp [backslash]
    | raw =>
      rw [step_of_raw inside] at move
      obtain rfl := Option.some.inj move
      intro escaped
      cases inside.symm.trans (calm escaped)
  | none =>
    have unescaped : scanner.escaped ≠ true := Bool.eq_false_iff.mp (calm.unescaped inside)
    rcases step_outside inside move with ⟨-, rfl⟩ | ⟨-, moves⟩ | ⟨outer, -, -, moves⟩ | ⟨-, rfl⟩
    · exact fun escaped => absurd escaped unescaped
    · exact fun escaped => absurd (moves.escaped.symm.trans escaped) unescaped
    · exact fun escaped => absurd (moves.escaped.symm.trans escaped) unescaped
    · exact fun escaped => absurd escaped unescaped

private theorem opensAlike_step {first second first' second' : Scanner}
    (alike : opensAlike first second (c :: cs) = true)
    (left : first'.last = some c ∧ first'.beforeLast = first.last)
    (right : second'.last = some c ∧ second'.beforeLast = second.last) :
    opensAlike first' second' cs = true := by
  unfold opensAlike
  split
  case h_1 inside =>
    by_cases isR : c = 'r'
    · subst isR
      simpa [opensAlike, opensRaw, remember, left, right] using alike
    · have notR : (c == 'r') = false := beq_eq_false_iff_ne.mpr isR
      simp [opensRaw, left, right, notR]
  case h_2 inside => simp [opensRaw, remember, left, right]
  case h_3 => rfl

/-- In a literal that ends at the next quote the scanner goes on to that quote. -/
theorem ClosesIn.step (closes : scanner.ClosesIn (c :: cs)) :
    ∃ next, scanner.step c = some next ∧ next.level = scanner.level ∧
      if c = '"' then next.literal = none ∧ next.escaped = false else next.ClosesIn cs := by
  unfold ClosesIn at closes
  split at closes
  case h_1 => exact closes.elim
  case h_2 raw =>
    refine ⟨_, step_of_raw raw, rfl, ?_⟩
    split
    case isTrue quote => exact ⟨rfl, closes⟩
    case isFalse notQuote => exact closes
  case h_3 quoted =>
    refine ⟨_, step_of_quoted quoted, rfl, ?_⟩
    unfold closesNext at closes
    split
    case isTrue quote => simp_all
    case isFalse notQuote => simpa [ClosesIn, notQuote] using closes

private theorem step_same (calm : alone.Calm) (deeper : placed.level = alone.level + depth)
    (opens : opensAlike placed alone (c :: cs) = true) (literal : placed.literal = alone.literal)
    (escaped : placed.escaped = alone.escaped) (move : alone.step c = some next)
    (moves : placed.step c = some other) :
    other.level = next.level + depth ∧
      (other.literal = next.literal ∧ other.escaped = next.escaped ∨
        next.ClosesIn cs ∧ other.ClosesIn cs) := by
  cases inside : alone.literal with
  | some kind =>
    cases kind with
    | quoted =>
      rw [step_of_quoted inside] at move
      rw [step_of_quoted (literal.trans inside)] at moves
      obtain rfl := Option.some.inj move
      obtain rfl := Option.some.inj moves
      exact ⟨deeper, .inl ⟨by rw [escaped], by rw [escaped]⟩⟩
    | raw =>
      rw [step_of_raw inside] at move
      rw [step_of_raw (literal.trans inside)] at moves
      obtain rfl := Option.some.inj move
      obtain rfl := Option.some.inj moves
      exact ⟨deeper, .inl ⟨rfl, escaped⟩⟩
  | none =>
    have outside : placed.literal = none := literal.trans inside
    have unescaped := calm.unescaped inside
    rcases step_outside inside move with ⟨rfl, rfl⟩ | ⟨rfl, first⟩ | ⟨outer, rfl, open', first⟩ |
      ⟨plain, rfl⟩
    -- A quote opens a literal, of one kind or of kinds that do not matter here.
    · obtain rfl : { placed.remember '"' with
          literal := some (if placed.opensRaw then .raw else .quoted) } = other := by
        apply Option.some.inj
        rw [← moves]
        simp [Scanner.step, outside]
      refine ⟨deeper, ?_⟩
      simp only [opensAlike, Bool.or_eq_true, beq_iff_eq] at opens
      rcases opens with same | closes
      · exact .inl ⟨by rw [same], escaped⟩
      · right
        constructor
        · cases alone.opensRaw <;> simp [ClosesIn, remember, unescaped, closes]
        · cases placed.opensRaw <;> simp [ClosesIn, remember, escaped, unescaped, closes]
    · obtain ⟨-, second⟩ := moves_of_open outside moves
      refine ⟨?_, .inl ⟨?_, ?_⟩⟩
      · rw [second.level_eq, first.level_eq, deeper]
        omega
      · rw [second.literal, first.literal, literal]
      · rw [second.escaped, first.escaped, escaped]
    · obtain ⟨outer', open'', second⟩ := moves_of_close outside moves
      refine ⟨?_, .inl ⟨?_, ?_⟩⟩
      · rw [second.level_eq, first.level_eq]
        omega
      · rw [second.literal, first.literal, literal]
      · rw [second.escaped, first.escaped, escaped]
    · rw [step_of_isPlain outside plain] at moves
      obtain rfl := Option.some.inj moves
      exact ⟨deeper, .inl ⟨literal, escaped⟩⟩

/-- Each step over a text keeps the scanners alike. -/
theorem Alike.step (alike : Alike depth alone placed (c :: cs))
    (move : alone.step c = some next) (moves : placed.step c = some other) :
    Alike depth next other cs := by
  -- Where the scanners stand after the step; the rest follows from what they remember.
  have ends : other.level = next.level + depth ∧
      (other.literal = next.literal ∧ other.escaped = next.escaped ∨
        next.ClosesIn cs ∧ other.ClosesIn cs) := by
    rcases alike.inside with ⟨literal, escaped⟩ | ⟨closes, closes'⟩
    · exact step_same alike.calm alike.deeper alike.opens literal escaped move moves
    · obtain ⟨next', move', deep, ends⟩ := closes.step
      obtain rfl := Option.some.inj (move'.symm.trans move)
      obtain ⟨other', moves', deep', ends'⟩ := closes'.step
      obtain rfl := Option.some.inj (moves'.symm.trans moves)
      refine ⟨by rw [deep, deep', alike.deeper], ?_⟩
      split at ends
      case isTrue quote =>
        rw [if_pos quote] at ends'
        exact .inl ⟨ends'.1.trans ends.1.symm, ends'.2.trans ends.2.symm⟩
      case isFalse notQuote =>
        rw [if_neg notQuote] at ends'
        exact .inr ⟨ends, ends'⟩
  exact ⟨alike.calm.step move, ends.1,
    opensAlike_step alike.opens (step_memory moves) (step_memory move), ends.2⟩

private theorem Alike.exists_step (alike : Alike 0 alone placed (c :: cs))
    (move : alone.step c = some next) : ∃ other, placed.step c = some other := by
  rcases alike.inside with ⟨literal, -⟩ | ⟨-, closes⟩
  · cases inside : alone.literal with
    | some kind =>
      cases kind with
      | quoted => exact ⟨_, step_of_quoted (literal.trans inside)⟩
      | raw => exact ⟨_, step_of_raw (literal.trans inside)⟩
    | none =>
      have outside : placed.literal = none := literal.trans inside
      rcases step_outside inside move with ⟨rfl, -⟩ | ⟨rfl, -⟩ | ⟨outer, rfl, deep, -⟩ | ⟨plain, -⟩
      · exact ⟨_, by simp [Scanner.step, outside]; rfl⟩
      · have room : placed.level < deepest := alike.deeper ▸ (moves_of_open inside move).1
        obtain ⟨other, moves, -⟩ := step_open outside room
        exact ⟨other, moves⟩
      · obtain ⟨other, moves, -⟩ := step_close outside (alike.deeper.trans deep)
        exact ⟨other, moves⟩
      · exact ⟨_, step_of_isPlain outside plain⟩
  · obtain ⟨other, moves, -, -⟩ := closes.step
    exact ⟨other, moves⟩

theorem Alike.run (alike : Alike 0 alone placed cs) {last : Scanner}
    (run : alone.run cs = some last) : ∃ last', placed.run cs = some last' := by
  induction cs generalizing alone placed with
  | nil => exact ⟨placed, rfl⟩
  | cons c cs ih =>
    obtain ⟨next, move, run⟩ := Option.bind_eq_some_iff.mp run
    obtain ⟨other, moves⟩ := alike.exists_step move
    obtain ⟨last', run'⟩ := ih (alike.step move moves) run
    exact ⟨last', by simp [Scanner.run, moves, run']⟩

theorem ClosesIn.inside (closes : scanner.ClosesIn cs) : scanner.atTopLevel = false := by
  unfold ClosesIn at closes
  cases literal : scanner.literal with
  | none =>
    rw [literal] at closes
    exact closes.elim
  | some kind => simp [atTopLevel, literal]

theorem Alike.outside (alike : Alike depth alone placed cs) (top : alone.atTopLevel = true) :
    placed.Outside depth := by
  obtain ⟨literal, bottom⟩ := atTopLevel_iff.mp top
  rcases alike.inside with ⟨literal', escaped⟩ | ⟨closes, -⟩
  · exact ⟨literal'.trans literal, escaped.trans (alike.calm.unescaped literal),
      by rw [alike.deeper, bottom, Nat.zero_add]⟩
  · exact absurd (closes.inside.symm.trans top) Bool.false_ne_true

theorem Alike.atTopLevel (alike : Alike 0 alone placed cs) :
    placed.atTopLevel = alone.atTopLevel := by
  rcases alike.inside with ⟨literal, -⟩ | ⟨closes, closes'⟩
  · rw [Bool.eq_iff_iff, atTopLevel_iff, atTopLevel_iff, literal, alike.deeper, Nat.add_zero]
  · rw [closes.inside, closes'.inside]

theorem Alike.deep (alike : Alike depth alone placed cs) (positive : 0 < depth) :
    placed.atTopLevel = false := by
  refine atTopLevel_of_level ?_
  rw [alike.deeper]
  omega

end Scanner

section Texts

variable {keyword cs rest before : List Char} {alone placed : Scanner} {depth : Nat}

/-- A text from a place of the scanner to the top level, in which no separator begins. -/
inductive Uncut (keyword : List Char) : Scanner → List Char → Prop
  | ends {scanner : Scanner} (top : scanner.atTopLevel = true) : Uncut keyword scanner []
  | moves {scanner next : Scanner} {c : Char} {cs : List Char}
      (quiet : separatorHere? keyword scanner (c :: cs) = none)
      (move : scanner.step c = some next) (tail : Uncut keyword next cs) :
      Uncut keyword scanner (c :: cs)

private theorem eq_of_consPiece {c : Char} {pieces : List (List Char)} (nonempty : pieces ≠ [])
    (single : consPiece c pieces = [c :: cs]) : pieces = [cs] := by
  obtain ⟨first, others, rfl⟩ := List.exists_cons_of_ne_nil nonempty
  simpa [consPiece] using single

theorem uncut_of_piecesFrom {scanner : Scanner} (whole : piecesFrom keyword scanner cs = .ok [cs]) :
    Uncut keyword scanner cs := by
  induction cs generalizing scanner with
  | nil =>
    rw [piecesFrom] at whole
    split at whole
    case h_1 after found => simp [separatorHere?, afterSeparator?] at found
    case h_2 =>
      dsimp only at whole
      split at whole
      case isTrue top => exact .ends top
      case isFalse => cases whole
  | cons c cs ih =>
    rw [piecesFrom] at whole
    split at whole
    case h_1 after found =>
      obtain ⟨behind, -, whole⟩ := bind_eq_ok.mp whole
      cases (List.cons.inj (Except.ok.inj whole)).1
    case h_2 quiet =>
      cases move : scanner.step c with
      | none =>
        simp only [move] at whole
        cases whole
      | some next =>
        simp only [move] at whole
        obtain ⟨behind, tail, whole⟩ := bind_eq_ok.mp whole
        obtain rfl := eq_of_consPiece (piecesFrom_ne_nil tail) (Except.ok.inj whole)
        exact .moves quiet move (ih tail)

/-- Over a text to a place at the same depth; in parentheses no separator begins on the way. -/
structure Spans (keyword : List Char) (depth : Nat) (scanner : Scanner) (cs : List Char)
    (last : Scanner) : Prop where
  outside : last.Outside depth
  run : scanner.run cs = some last
  passes : 0 < depth → Passes keyword scanner cs last

theorem Uncut.run {scanner : Scanner} (uncut : Uncut keyword scanner cs) :
    ∃ last, scanner.run cs = some last := by
  induction uncut with
  | @ends scanner top => exact ⟨scanner, rfl⟩
  | moves quiet move tail ih =>
    obtain ⟨last, run⟩ := ih
    exact ⟨last, by simp [Scanner.run, move, run]⟩

/-- A text without a separator of its own is passed in its place, if the scanner can move over it
there. -/
theorem Uncut.spans (other : List Char) (uncut : Uncut keyword alone cs)
    (alike : alone.Alike depth placed cs) {last : Scanner} (run : placed.run cs = some last) :
    Spans other depth placed cs last := by
  induction uncut generalizing placed with
  | ends top =>
    obtain rfl := Option.some.inj run
    exact ⟨alike.outside top, rfl, fun _ => .done placed⟩
  | moves quiet move tail ih =>
    obtain ⟨next, moves, rest⟩ := Option.bind_eq_some_iff.mp run
    have spans := ih (alike.step move moves) rest
    refine ⟨spans.outside, run, fun positive => ?_⟩
    exact .step moves (fun _ => separatorHere?_inside (alike.deep positive) _)
      (spans.passes positive)

theorem afterSeparator?_of_blanks (word : IsKeyword keyword) {front tail : List Char} {d : Char}
    (blanks : ∀ c ∈ front, isAsciiBlank c = true) (nonempty : front ≠ [])
    (blank : isAsciiBlank d = true) :
    afterSeparator? keyword (front ++ (keyword ++ d :: tail)) =
      some (tail.dropWhile isAsciiBlank) := by
  obtain ⟨c, front, rfl⟩ := List.exists_cons_of_ne_nil nonempty
  obtain ⟨first, others⟩ := List.forall_mem_cons.mp blanks
  have stands : (keyword ++ d :: tail).dropWhile isAsciiBlank = keyword ++ d :: tail := by
    obtain ⟨k, ks, rfl⟩ := List.exists_cons_of_ne_nil word.nonempty
    simp [word.not_blank List.mem_cons_self]
  rw [List.cons_append, afterSeparator?, if_pos first, List.dropWhile_append_of_pos others, stands,
    Text.expect?_append]
  exact if_pos blank

theorem afterSeparator?_eq_some {after : List Char} (found : afterSeparator? keyword cs = some after) :
    ∃ front d tail, front ≠ [] ∧ (∀ c ∈ front, isAsciiBlank c = true) ∧ isAsciiBlank d = true ∧
      cs = front ++ (keyword ++ d :: tail) := by
  cases cs with
  | nil => cases found
  | cons c cs =>
    rw [afterSeparator?] at found
    split at found
    case isFalse => cases found
    case isTrue blank =>
      split at found
      case h_2 => cases found
      case h_1 d tail expected =>
        split at found
        case isFalse => cases found
        case isTrue blank' =>
          refine ⟨c :: cs.takeWhile isAsciiBlank, d, tail, List.cons_ne_nil _ _,
            List.forall_mem_cons.mpr ⟨blank, fun e member => ?_⟩, blank', ?_⟩
          · exact List.mem_takeWhile_imp member
          · rw [← Text.expect?_eq_some expected, List.cons_append, List.takeWhile_append_dropWhile]

/-- A text that does not run into a separator behind it: it ends neither with a blank nor with the
keyword as a word of its own. -/
structure EndsApart (keyword cs : List Char) : Prop where
  solid : ∀ c, cs.getLast? = some c → isAsciiBlank c = false
  word : ∀ front blank, isAsciiBlank blank = true → cs ≠ front ++ blank :: keyword

theorem EndsApart.tail {c : Char} (separate : EndsApart keyword (c :: cs)) : EndsApart keyword cs where
  solid d last := by
    refine separate.solid d ?_
    rw [List.getLast?_cons, last]
    rfl
  word front blank isBlank shape :=
    separate.word (c :: front) blank isBlank (congrArg (c :: ·) shape)

private theorem afterSeparator?_append (word : IsKeyword keyword) (separate : EndsApart keyword cs)
    (nonempty : cs ≠ []) (quiet : afterSeparator? keyword cs = none)
    (behind : ∀ c, rest.head? = some c → isAsciiBlank c = true) :
    afterSeparator? keyword (cs ++ rest) = none := by
  cases found : afterSeparator? keyword (cs ++ rest) with
  | none => rfl
  | some after =>
    obtain ⟨front, d, tail, filled, blanks, blank, shape⟩ := afterSeparator?_eq_some found
    -- The text is not just the blanks and the keyword.
    have apart : cs ≠ front ++ keyword := by
      intro same
      refine separate.word front.dropLast (front.getLast filled) (blanks _ (List.getLast_mem _)) ?_
      rw [same, ← List.singleton_append, ← List.append_assoc, List.dropLast_append_getLast]
    rw [← List.append_assoc, List.append_eq_append_iff] at shape
    rcases shape with ⟨more, shape, rest_eq⟩ | ⟨more, shape, tail_eq⟩
    · cases more with
      | nil => exact absurd (by simpa using shape.symm) apart
      | cons e more =>
        have isBlank : isAsciiBlank e = true := behind e (by simp [rest_eq])
        rw [List.append_eq_append_iff] at shape
        rcases shape with ⟨middle, -, ends⟩ | ⟨middle, front_eq, -⟩
        · have letter : e ∈ keyword := by simp [ends]
          exact absurd ((word.not_blank letter).symm.trans isBlank) Bool.false_ne_true
        · have solid := separate.solid _ (List.getLast?_eq_getLast_of_ne_nil nonempty)
          have held : cs.getLast nonempty ∈ front := by
            rw [front_eq]
            exact List.mem_append_left _ (List.getLast_mem nonempty)
          exact absurd (solid.symm.trans (blanks _ held)) Bool.false_ne_true
    · cases more with
      | nil => exact absurd (by simpa using shape) apart
      | cons e more =>
        obtain rfl : d = e := (List.cons.inj tail_eq).1
        rw [shape, List.append_assoc, afterSeparator?_of_blanks word blanks filled blank] at quiet
        cases quiet

/-- A text without a separator of its own is one piece in its place, up to what follows it. -/
theorem Uncut.piecesFrom (word : IsKeyword keyword) (uncut : Uncut keyword alone cs)
    (alike : alone.Alike 0 placed cs) (separate : EndsApart keyword cs)
    (behind : ∀ c, rest.head? = some c → isAsciiBlank c = true) :
    ∃ last, last.Outside 0 ∧ placed.run cs = some last ∧
      piecesFrom keyword placed (cs ++ rest) =
        (piecesFrom keyword last rest).map (cs.foldr consPiece ·) := by
  induction uncut generalizing placed with
  | ends top =>
    refine ⟨placed, alike.outside top, rfl, ?_⟩
    cases found : Expression.piecesFrom keyword placed rest <;> simp [found, Except.map]
  | @moves scanner next c cs quiet move tail ih =>
    obtain ⟨next', moves⟩ := alike.exists_step move
    obtain ⟨last, outside, run, pieces⟩ := ih (alike.step move moves) separate.tail
    have still : separatorHere? keyword placed (c :: cs ++ rest) = none := by
      unfold separatorHere? at quiet ⊢
      rw [alike.atTopLevel]
      split at quiet
      case isTrue top =>
        rw [if_pos top]
        exact afterSeparator?_append word separate (List.cons_ne_nil _ _) quiet behind
      case isFalse notTop => rw [if_neg notTop]
    refine ⟨last, outside, by simp [Scanner.run, moves, run], ?_⟩
    rw [List.cons_append, Expression.piecesFrom]
    split
    case h_1 after found => cases still.symm.trans found
    case h_2 =>
      simp only [moves, pieces]
      cases Expression.piecesFrom keyword last rest <;> rfl

end Texts

end EdgePolicy.Expression
