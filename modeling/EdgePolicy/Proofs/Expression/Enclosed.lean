import EdgePolicy.Expression.Decompile
import EdgePolicy.Proofs.Expression.Joined

/-
Pieces that were read, and what their group says of them.

A piece of a split text was read from one place at top level to another, and no separator was found
on the way (`wasRead_of_split`).  Its parentheses are bounded by what the scanner can count.  The
scanner that looks for the next group moves over the same piece within the parentheses of its own
group, so where both read it alike one parenthesis less is open at most (`WasRead.enclosed`).
-/

set_option autoImplicit false
set_option relaxedAutoImplicit false

namespace EdgePolicy.Expression

open Text (isBlank isBlank_of_isAsciiBlank trimChars)

/-- From one place of the scanner to another over a text in which no separator begins, given what
stands behind the text, with no more than some number of parentheses open. -/
inductive Quiet (limit : Nat) (keyword : List Char) : Scanner → List Char → List Char → Scanner → Prop
  | done (scanner : Scanner) (behind : List Char) : Quiet limit keyword scanner [] behind scanner
  | step {scanner next last : Scanner} {c : Char} {cs behind : List Char}
      (move : scanner.step c = some next) (room : next.level ≤ limit)
      (quiet : separatorHere? keyword scanner (c :: (cs ++ behind)) = none)
      (tail : Quiet limit keyword next cs behind last) :
      Quiet limit keyword scanner (c :: cs) behind last

/-- A text was read from a place at top level to another without finding a separator. -/
def WasRead (limit : Nat) (keyword cs : List Char) : Prop :=
  ∃ start behind last, start.atTopLevel = true ∧ start.Calm ∧ last.atTopLevel = true ∧
    Quiet limit keyword start cs behind last

/-- The scanner moves over a text within the parentheses of a group. -/
def IsEnclosed (cs : List Char) : Prop :=
  ∃ opened last : Scanner, opened.Outside 1 ∧ opened.run cs = some last

def BeginsBare (cs : List Char) : Prop := ∀ c, cs.head? = some c → c ≠ '"' ∧ c ≠ 'r'

section Reading

variable {limit : Nat} {keyword cs u v behind : List Char} {scanner last : Scanner}

theorem Quiet.split (quiet : Quiet limit keyword scanner (u ++ v) behind last) :
    ∃ middle, Quiet limit keyword scanner u (v ++ behind) middle ∧
      Quiet limit keyword middle v behind last := by
  induction u generalizing scanner with
  | nil => exact ⟨scanner, .done scanner _, quiet⟩
  | cons c cs ih =>
    cases quiet with
    | step move room quiet tail =>
      obtain ⟨middle, front, back⟩ := ih tail
      exact ⟨middle, .step move room (List.append_assoc cs v behind ▸ quiet) front, back⟩

theorem Quiet.run (quiet : Quiet limit keyword scanner u behind last) :
    scanner.run u = some last := by
  induction quiet with
  | done scanner behind => rfl
  | step move room quiet tail ih => simp [Scanner.run, move, ih]

/-- In every piece of a split text no separator was found, and all but the first piece were read
from a place at top level. -/
private theorem quiet_of_piecesFrom {pieces : List (List Char)} (calm : scanner.Calm)
    (done : piecesFrom keyword scanner cs = .ok pieces) :
    ∃ first others, pieces = first :: others ∧
      (∃ behind last, cs = first ++ behind ∧ (others = [] → behind = []) ∧
        last.atTopLevel = true ∧ Quiet deepest keyword scanner first behind last) ∧
      ∀ piece ∈ others, WasRead deepest keyword piece := by
  fun_induction piecesFrom keyword scanner cs generalizing pieces with
  | case1 scanner cs after separated ih =>
    obtain ⟨rest, read, done⟩ := bind_eq_ok.mp done
    obtain rfl := Except.ok.inj done
    have top := (separatorHere?_eq_some separated).1
    obtain ⟨first, others, rfl, ⟨behind, last, -, -, top', quiet⟩, later⟩ := ih calm read
    have more : first :: others ≠ [] := List.cons_ne_nil _ _
    refine ⟨[], first :: others, rfl, ⟨cs, scanner, rfl, fun none => absurd none more, top,
      .done scanner cs⟩, ?_⟩
    exact List.forall_mem_cons.mpr ⟨⟨scanner, behind, last, top, calm, top', quiet⟩, later⟩
  | case2 scanner unseparated top =>
    obtain rfl := Except.ok.inj done
    exact ⟨[], [], rfl, ⟨[], scanner, rfl, fun _ => rfl, top, .done scanner []⟩,
      List.forall_mem_nil _⟩
  | case3 scanner unseparated inside => cases done
  | case4 scanner c rest unseparated stuck => cases done
  | case5 scanner c rest unseparated next move ih =>
    obtain ⟨pieces', read, done⟩ := bind_eq_ok.mp done
    obtain rfl := Except.ok.inj done
    obtain ⟨first, others, rfl, ⟨behind, last, rfl, alone, top, quiet⟩, later⟩ :=
      ih (calm.step move) read
    exact ⟨c :: first, others, rfl,
      ⟨behind, last, rfl, alone, top, .step move next.level_le unseparated quiet⟩, later⟩

/-- A piece of a split text was read from a place at top level to another, and no separator was
found in it. -/
theorem wasRead_of_split {pieces : List (List Char)} (done : split keyword cs = .ok pieces)
    {piece : List Char} (member : piece ∈ pieces) : WasRead deepest keyword piece := by
  obtain ⟨first, others, rfl, ⟨behind, last, -, -, top, quiet⟩, later⟩ :=
    quiet_of_piecesFrom Scanner.calm_start (split_ok.mp done)
  rcases List.mem_cons.mp member with rfl | member
  · exact ⟨.start, behind, last, rfl, Scanner.calm_start, top, quiet⟩
  · exact later piece member

theorem wasRead_of_single {piece : List Char} (done : Expression.split keyword cs = .ok [piece]) :
    WasRead deepest keyword cs := by
  obtain ⟨first, others, shape, ⟨behind, last, rfl, alone, top, quiet⟩, -⟩ :=
    quiet_of_piecesFrom Scanner.calm_start (split_ok.mp done)
  obtain ⟨rfl, rfl⟩ := List.cons.inj shape
  obtain rfl := alone rfl
  rw [List.append_nil]
  exact ⟨.start, [], last, rfl, Scanner.calm_start, top, quiet⟩

end Reading

section Enclosing

variable {limit : Nat} {keyword cs u behind : List Char} {alone placed last placedLast : Scanner}

theorem BeginsBare.opensAlike (bare : BeginsBare cs) : Scanner.opensAlike placed alone cs = true := by
  unfold Scanner.opensAlike
  split
  · exact absurd rfl (bare '"' rfl).1
  · exact absurd rfl (bare 'r' rfl).2
  · rfl

/-- A text that is also read within parentheses leaves room for them. -/
theorem Quiet.enclosed (quiet : Quiet limit keyword alone u behind last)
    (alike : alone.Alike 1 placed u) (run : placed.run u = some placedLast) :
    Quiet (deepest - 1) keyword alone u behind last ∧ last.Alike 1 placedLast [] := by
  induction quiet generalizing placed with
  | done scanner behind =>
    obtain rfl := Option.some.inj run
    exact ⟨.done scanner behind, alike⟩
  | step move room quiet tail ih =>
    obtain ⟨next, moves, run⟩ := Option.bind_eq_some_iff.mp run
    have alike' := alike.step move moves
    obtain ⟨rest, ends⟩ := ih alike' run
    have deeper := alike'.deeper
    have bound := next.level_le
    exact ⟨.step move (by omega) quiet rest, ends⟩

/-- A text that begins with no literal is read alike alone and in its group. -/
theorem WasRead.enclosed (read : WasRead limit keyword cs) (bare : BeginsBare cs)
    (outside : placed.Outside 1) (run : placed.run cs = some placedLast) :
    WasRead (deepest - 1) keyword cs ∧ placedLast.Outside 1 := by
  obtain ⟨start, behind, last, top, calm, top', quiet⟩ := read
  obtain ⟨literal, level⟩ := Scanner.atTopLevel_iff.mp top
  have alike : start.Alike 1 placed cs := {
    calm := calm
    deeper := by rw [outside.level_eq, level]
    opens := bare.opensAlike
    inside := .inl ⟨outside.literal.trans literal.symm,
      outside.escaped.trans (calm.unescaped literal).symm⟩ }
  obtain ⟨quiet', ends⟩ := quiet.enclosed alike run
  exact ⟨⟨start, behind, last, top, calm, top', quiet'⟩, ends.outside top'⟩

private theorem run_plain {depth : Nat} (plain : ∀ c ∈ u, isPlain c = true)
    (outside : alone.Outside depth) (run : alone.run (u ++ cs) = some last) :
    ∃ middle : Scanner, middle.Outside depth ∧ middle.run cs = some last := by
  obtain ⟨middle, spans⟩ : ∃ middle, Spans andWord depth alone u middle := spans_plain plain outside
  rw [Scanner.run_append, spans.run] at run
  exact ⟨middle, spans.outside, run⟩

/-- Each clause of a group is moved over within the parentheses of the group. -/
theorem Joined.enclosed {texts : List (List Char)} (joined : Joined andWord texts cs)
    (bare : ∀ text ∈ texts, BeginsBare text)
    (read : ∀ text ∈ texts, WasRead limit andWord text) (enclosed : IsEnclosed cs) :
    ∀ text ∈ texts, IsEnclosed text := by
  induction joined with
  | single text => exact List.forall_mem_singleton.mpr enclosed
  | cons text separates rest ih =>
    obtain ⟨opened, last, outside, run⟩ := enclosed
    rw [Scanner.run_append] at run
    obtain ⟨middle, across, run⟩ := Option.bind_eq_some_iff.mp run
    obtain ⟨bare, bare'⟩ := List.forall_mem_cons.mp bare
    obtain ⟨read, read'⟩ := List.forall_mem_cons.mp read
    have outside' : middle.Outside 1 := (read.enclosed bare outside across).2
    obtain ⟨next, spans, -⟩ : ∃ next, Spans andWord 1 middle _ next ∧ next.Fresh :=
      separates.spans isKeyword_andWord outside'
    rw [Scanner.run_append, spans.run] at run
    exact List.forall_mem_cons.mpr ⟨⟨opened, middle, outside, across⟩,
      ih bare' read' ⟨next, last, spans.outside, run⟩⟩

theorem trimChars_eq (cs : List Char) : ∃ lead trail, (∀ c ∈ lead, isBlank c = true) ∧
    (∀ c ∈ trail, isBlank c = true) ∧ cs = lead ++ (trimChars cs ++ trail) := by
  let behind := cs.dropWhile isBlank
  refine ⟨cs.takeWhile isBlank, (behind.reverse.takeWhile isBlank).reverse,
    fun _ member => List.mem_takeWhile_imp member, fun _ member => ?_, ?_⟩
  · exact List.mem_takeWhile_imp (List.mem_reverse.mp member)
  · have whole : trimChars cs ++ (behind.reverse.takeWhile isBlank).reverse = behind := by
      rw [trimChars, ← List.reverse_append, List.takeWhile_append_dropWhile, List.reverse_reverse]
    rw [whole, List.takeWhile_append_dropWhile]

theorem IsEnclosed.trimmed (enclosed : IsEnclosed cs) : IsEnclosed (trimChars cs) := by
  obtain ⟨opened, last, outside, run⟩ := enclosed
  obtain ⟨lead, trail, blanks, -, whole⟩ := trimChars_eq cs
  rw [whole] at run
  obtain ⟨middle, outside', run⟩ :=
    run_plain (fun c member => isPlain_of_isBlank (blanks c member)) outside run
  rw [Scanner.run_append] at run
  obtain ⟨closed, run, -⟩ := Option.bind_eq_some_iff.mp run
  exact ⟨middle, closed, outside', run⟩

private theorem groupInside_eq_ok {raw inside : List Char} (opened : groupInside raw = .ok inside) :
    trimChars raw = '(' :: inside ++ [')'] := by
  unfold groupInside at opened
  dsimp only at opened
  split at opened
  · next rest shape =>
    split at opened
    · next ends =>
      obtain rfl := Except.ok.inj opened
      rw [shape, List.cons_append, List.dropLast_append_getLast? _ ends.1]
    · nomatch opened
  · nomatch opened

theorem isEnclosed_inside {raw inside : List Char} (read : WasRead limit orWord raw)
    (opened : groupInside raw = .ok inside) : IsEnclosed inside := by
  obtain ⟨start, behind, last, top, calm, -, quiet⟩ := read
  obtain ⟨literal, level⟩ := Scanner.atTopLevel_iff.mp top
  have run := quiet.run
  obtain ⟨lead, trail, blanks, -, whole⟩ := trimChars_eq raw
  rw [whole, groupInside_eq_ok opened] at run
  obtain ⟨middle, outside, run⟩ := run_plain
    (fun c member => isPlain_of_isBlank (blanks c member))
    ⟨literal, calm.unescaped literal, level⟩ run
  rw [List.cons_append, List.cons_append] at run
  obtain ⟨first, move, run⟩ := Option.bind_eq_some_iff.mp run
  obtain ⟨-, moves⟩ := Scanner.moves_of_open outside.literal move
  rw [List.append_assoc, Scanner.run_append] at run
  obtain ⟨closed, run, -⟩ := Option.bind_eq_some_iff.mp run
  refine ⟨first, closed, ⟨moves.literal.trans outside.literal,
    moves.escaped.trans outside.escaped, ?_⟩, run⟩
  rw [moves.level_eq, outside.level_eq]

end Enclosing

end EdgePolicy.Expression
