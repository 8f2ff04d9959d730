import EdgePolicy.Proofs.Expression.Context

/-
Texts joined by a keyword, with any blanks around it.

`Joined` says how a text is made of others.  The splitter does not show the characters of a separator
to the scanner, so each text is read behind the ones before it: `PieceBehind` is what it takes for it
to be one piece there, and `piecesFrom_joined` splits the whole.  Where separators are read like any
other text each text follows a blank, and `Fits` is enough (`Joined.fits`).
-/

set_option autoImplicit false
set_option relaxedAutoImplicit false

namespace EdgePolicy.Expression

open Text (isAsciiBlank isBlank_of_isAsciiBlank)

namespace Scanner

/-- The scanner behind a text, outside of literals and parentheses. -/
def behind (before : List Char) : Scanner :=
  { start with last := before.getLast?, beforeLast := before.dropLast.getLast? }

def Remembers (scanner : Scanner) (before : List Char) : Prop :=
  scanner.last = (behind before).last ∧ scanner.beforeLast = (behind before).beforeLast

def Fresh (scanner : Scanner) : Prop := ∀ c, scanner.last = some c → startsToken c = true

variable {scanner last : Scanner} {before cs : List Char} {depth : Nat}

theorem remembers_start : start.Remembers [] := ⟨rfl, rfl⟩

theorem Remembers.run (remembers : scanner.Remembers before) (run : scanner.run cs = some last) :
    last.Remembers (before ++ cs) := by
  induction cs generalizing scanner before with
  | nil =>
    obtain rfl := Option.some.inj run
    rwa [List.append_nil]
  | cons c cs ih =>
    obtain ⟨next, move, run⟩ := Option.bind_eq_some_iff.mp run
    obtain ⟨latest, earlier⟩ := step_memory move
    have remembers' : next.Remembers (before ++ [c]) := by
      refine ⟨latest.trans (by simp [behind]), earlier.trans (remembers.1.trans ?_)⟩
      simp [behind]
    have remembers'' := ih remembers' run
    rwa [List.append_assoc, List.singleton_append] at remembers''

private theorem opensAlike_of_remembers (remembers : scanner.Remembers before) (other : Scanner) :
    opensAlike scanner other cs = opensAlike (behind before) other cs := by
  unfold opensAlike opensRaw remember
  simp only [remembers.1, remembers.2]

theorem Fresh.opensAlike {other : Scanner} (fresh : scanner.Fresh) (fresh' : other.Fresh) :
    opensAlike scanner other cs = true := by
  have notRaw : ∀ scanner : Scanner, scanner.Fresh → scanner.opensRaw = false := by
    intro scanner fresh
    cases latest : scanner.last with
    | none => simp [opensRaw, latest]
    | some c =>
      have starts := fresh c latest
      have notR : c ≠ 'r' := by
        rintro rfl
        exact absurd starts (by decide)
      simp [opensRaw, latest, notR]
  have raw : ∀ scanner : Scanner, scanner.Fresh → (scanner.remember 'r').opensRaw = true := by
    intro scanner fresh
    cases latest : scanner.last with
    | none => simp [opensRaw, remember, latest]
    | some c => simp [opensRaw, remember, latest, fresh c latest]
  unfold Scanner.opensAlike
  split
  · rw [notRaw scanner fresh, notRaw other fresh']
    rfl
  · rw [raw scanner fresh, raw other fresh']
    rfl
  · rfl

theorem fresh_start : start.Fresh := nofun

private theorem alike_start (outside : scanner.Outside depth)
    (opens : opensAlike scanner start cs = true) : Alike depth start scanner cs where
  calm := calm_start
  deeper := outside.level_eq.trans (Nat.zero_add depth).symm
  opens := opens
  inside := .inl ⟨outside.literal, outside.escaped⟩

theorem Outside.run {model : Scanner} (outside : model.Outside depth) (fresh : model.Fresh)
    (run : model.run cs = some last) (outside' : scanner.Outside depth) (fresh' : scanner.Fresh) :
    ∃ last', scanner.run cs = some last' := by
  have alike : Alike 0 model scanner cs := {
    calm := fun escaped => absurd (outside.escaped.symm.trans escaped) Bool.false_ne_true
    deeper := outside'.level_eq.trans outside.level_eq.symm
    opens := fresh'.opensAlike fresh
    inside := .inl ⟨outside'.literal.trans outside.literal.symm,
      outside'.escaped.trans outside.escaped.symm⟩ }
  exact alike.run run

theorem run_append (u v : List Char) :
    scanner.run (u ++ v) = (scanner.run u).bind fun next => next.run v := by
  induction u generalizing scanner with
  | nil => rfl
  | cons c u ih =>
    simp only [List.cons_append, run, Option.bind_assoc]
    congr
    funext next
    exact ih

end Scanner

section Spanning

variable {keyword other cs u v : List Char} {scanner middle last : Scanner} {depth : Nat}

theorem Spans.append (first : Spans keyword depth scanner u middle)
    (second : Spans keyword depth middle v last) : Spans keyword depth scanner (u ++ v) last where
  outside := second.outside
  run := by rw [Scanner.run_append, first.run, Option.bind_some, second.run]
  passes positive := (first.passes positive).append (second.passes positive)

theorem spans_plain (plain : ∀ c ∈ cs, isPlain c = true) (outside : scanner.Outside depth) :
    ∃ last, Spans keyword depth scanner cs last := by
  induction cs generalizing scanner with
  | nil => exact ⟨scanner, outside, rfl, fun _ => .done scanner⟩
  | cons c cs ih =>
    obtain ⟨here, others⟩ := List.forall_mem_cons.mp plain
    have move := Scanner.step_plain outside here
    obtain ⟨last, spans⟩ := ih others (outside.remember c)
    refine ⟨last, spans.outside, by simp [Scanner.run, move, spans.run], fun positive => ?_⟩
    have deep : scanner.atTopLevel = false := by
      refine Scanner.atTopLevel_of_level ?_
      rw [outside.level_eq]
      omega
    exact .step move (fun _ => separatorHere?_inside deep _) (spans.passes positive)

/-- A text that leads from any place where a token may begin to the same depth. -/
def Fits (keyword : List Char) (depth : Nat) (cs : List Char) : Prop :=
  ∀ scanner : Scanner, scanner.Outside depth → scanner.Fresh →
    ∃ last, Spans keyword depth scanner cs last

/-- A text without a separator of its own fits at a depth where the scanner can move over it. -/
theorem Uncut.fits (uncut : Uncut other .start cs) {model : Scanner} (outside : model.Outside depth)
    (fresh : model.Fresh) (run : model.run cs = some last) : Fits keyword depth cs := by
  intro scanner outside' fresh'
  obtain ⟨last', run'⟩ := outside.run fresh run outside' fresh'
  exact ⟨last', uncut.spans keyword
    (Scanner.alike_start outside' (fresh'.opensAlike Scanner.fresh_start)) run'⟩

theorem Crosses.fits (crosses : Crosses keyword depth cs) : Fits keyword depth cs := by
  intro scanner outside _
  obtain ⟨last, outside', passage⟩ := crosses scanner outside
  exact ⟨last, outside', passage.run, fun _ => passage⟩

theorem isBalanced_of_fits (fits : Fits keyword 0 cs) : isBalanced cs = true := by
  obtain ⟨last, spans⟩ := fits .start Scanner.outside_start nofun
  rw [isBalanced, spans.run]
  exact spans.outside.atTopLevel

theorem Fits.parenthesized (room : depth < deepest) (fits : Fits keyword (depth + 1) cs) :
    Crosses keyword depth ('(' :: cs ++ [')']) := by
  intro scanner outside
  refine passes_parenthesized outside room fun opened outside' behind => ?_
  have fresh : opened.Fresh := fun c latest => by
    obtain rfl := Option.some.inj (behind.symm.trans latest)
    decide
  obtain ⟨last, spans⟩ := fits opened outside' fresh
  exact ⟨last, spans.outside, spans.passes (Nat.succ_pos depth)⟩

end Spanning

/-- A separator as it may be written: the keyword between blanks. -/
def IsSeparator (keyword between : List Char) : Prop :=
  ∃ front back, front ≠ [] ∧ back ≠ [] ∧ (∀ c ∈ front ++ back, isAsciiBlank c = true) ∧
    between = front ++ (keyword ++ back)

/-- A text made of others by separators between them. -/
inductive Joined (keyword : List Char) : List (List Char) → List Char → Prop
  | single (text : List Char) : Joined keyword [text] text
  | cons {texts : List (List Char)} {between joined : List Char} (text : List Char)
      (separates : IsSeparator keyword between) (rest : Joined keyword texts joined) :
      Joined keyword (text :: texts) (text ++ (between ++ joined))

section Separators

variable {keyword other between rest : List Char} {scanner : Scanner} {depth : Nat}

theorem IsSeparator.after (separates : IsSeparator keyword between) (word : IsKeyword keyword)
    (solid : ∀ c, rest.head? = some c → isAsciiBlank c = false) :
    afterSeparator? keyword (between ++ rest) = some rest := by
  obtain ⟨front, back, nonempty, filled, blanks, rfl⟩ := separates
  obtain ⟨d, back, rfl⟩ := List.exists_cons_of_ne_nil filled
  obtain ⟨blank, others⟩ := List.forall_mem_cons.mp (List.forall_mem_append.mp blanks).2
  have stands : rest.dropWhile isAsciiBlank = rest := by
    cases rest with
    | nil => rfl
    | cons c rest => simp [solid c rfl]
  have found : afterSeparator? keyword (front ++ (keyword ++ d :: (back ++ rest))) = _ :=
    afterSeparator?_of_blanks word (List.forall_mem_append.mp blanks).1 nonempty blank
  rw [List.dropWhile_append_of_pos others, stands] at found
  rwa [List.append_assoc, List.append_assoc, List.cons_append]

theorem IsSeparator.head (separates : IsSeparator keyword between) :
    ∃ c more, between = c :: more ∧ isAsciiBlank c = true := by
  obtain ⟨front, back, nonempty, -, blanks, rfl⟩ := separates
  obtain ⟨c, front, rfl⟩ := List.exists_cons_of_ne_nil nonempty
  exact ⟨c, _, rfl, blanks c (by simp)⟩

private theorem isPlain_of_isAlpha {c : Char} (letter : c.isAlpha = true) : isPlain c = true := by
  have apart : ∀ d ∈ ['"', '(', ')'], c ≠ d := by
    rintro d member rfl
    revert letter
    revert c
    decide
  simp [isPlain, apart]

private theorem Scanner.run_last {last : Scanner} {u : List Char} {c : Char}
    (run : scanner.run (u ++ [c]) = some last) : last.last = some c := by
  rw [run_append] at run
  obtain ⟨middle, -, run⟩ := Option.bind_eq_some_iff.mp run
  obtain ⟨next, move, run⟩ := Option.bind_eq_some_iff.mp run
  obtain rfl := Option.some.inj run
  exact (step_memory move).1

theorem IsSeparator.spans (separates : IsSeparator other between) (word : IsKeyword other)
    (outside : scanner.Outside depth) :
    ∃ last, Spans keyword depth scanner between last ∧ last.Fresh := by
  obtain ⟨front, back, -, filled, blanks, rfl⟩ := separates
  have plain : ∀ c ∈ front ++ (other ++ back), isPlain c = true := by
    simp only [List.forall_mem_append] at blanks ⊢
    exact ⟨fun c member => isPlain_of_isBlank (isBlank_of_isAsciiBlank (blanks.1 c member)),
      fun c member => isPlain_of_isAlpha (word.letters c member),
      fun c member => isPlain_of_isBlank (isBlank_of_isAsciiBlank (blanks.2 c member))⟩
  obtain ⟨last, spans⟩ : ∃ last, Spans keyword depth scanner _ last := spans_plain plain outside
  refine ⟨last, spans, fun c latest => ?_⟩
  have run := spans.run
  rw [← List.dropLast_append_getLast filled, ← List.append_assoc, ← List.append_assoc] at run
  have blank : isAsciiBlank c = true := by
    obtain rfl := Option.some.inj ((Scanner.run_last run).symm.trans latest)
    exact blanks _ (List.mem_append_right _ (List.getLast_mem filled))
  simp [Scanner.startsToken, blank]

theorem Joined.fits {texts : List (List Char)} {cs : List Char} (word : IsKeyword other)
    (joined : Joined other texts cs) (fits : ∀ text ∈ texts, Fits keyword depth text) :
    Fits keyword depth cs := by
  induction joined with
  | single text => exact fits text (List.mem_singleton_self text)
  | cons text separates rest ih =>
    intro scanner outside fresh
    obtain ⟨here, others⟩ := List.forall_mem_cons.mp fits
    obtain ⟨first, spans⟩ := here scanner outside fresh
    obtain ⟨second, spans', fresh'⟩ := separates.spans word spans.outside
    obtain ⟨last, spans''⟩ := ih others second spans'.outside fresh'
    exact ⟨last, spans.append (spans'.append spans'')⟩

end Separators

section Pieces

variable {keyword before text cs : List Char} {texts : List (List Char)} {scanner : Scanner}

/-- Behind other texts, a text is one piece up to the end or the separator that follows it. -/
def PieceBehind (keyword before text : List Char) : Prop :=
  ∀ scanner : Scanner, scanner.Outside 0 → scanner.Remembers before →
    ∀ rest : List Char, (∀ c, rest.head? = some c → isAsciiBlank c = true) →
      ∃ last, last.Outside 0 ∧ scanner.run text = some last ∧
        piecesFrom keyword scanner (text ++ rest) =
          (piecesFrom keyword last rest).map (text.foldr consPiece ·)

theorem Crosses.pieceBehind (crosses : Crosses keyword 0 text) : PieceBehind keyword before text := by
  intro scanner outside _ rest _
  obtain ⟨last, outside', passage⟩ := crosses scanner outside
  exact ⟨last, outside', passage.run, piecesFrom_append passage rest⟩

theorem Uncut.pieceBehind (uncut : Uncut keyword .start text) (word : IsKeyword keyword)
    (separate : EndsApart keyword text)
    (opens : (Scanner.behind before).opensAlike .start text = true) :
    PieceBehind keyword before text := by
  intro scanner outside remembers rest behind
  rw [← Scanner.opensAlike_of_remembers remembers] at opens
  exact uncut.piecesFrom word (Scanner.alike_start outside opens) separate behind

private theorem piecesFrom_separator {after : List Char} (outside : scanner.Outside 0)
    (found : afterSeparator? keyword cs = some after) :
    piecesFrom keyword scanner cs = (piecesFrom keyword scanner after).map ([] :: ·) := by
  have here : separatorHere? keyword scanner cs = some after := by
    rw [separatorHere?, if_pos outside.atTopLevel, found]
  rw [piecesFrom]
  split
  case h_1 after' found' =>
    obtain rfl := Option.some.inj (here.symm.trans found')
    cases piecesFrom keyword scanner after <;> rfl
  case h_2 quiet => cases here.symm.trans quiet

theorem Joined.ne_nil (joined : Joined keyword texts cs) : texts ≠ [] := by
  cases joined <;> exact List.cons_ne_nil _ _

theorem Joined.starts {first : List Char} (joined : Joined keyword (first :: texts) cs) :
    ∃ rest, cs = first ++ rest := by
  cases joined with
  | single => exact ⟨[], (List.append_nil cs).symm⟩
  | cons text separates rest => exact ⟨_, rfl⟩

theorem Joined.closes (joined : Joined keyword texts cs) (closes : ∀ text ∈ texts, Closes text) :
    Closes cs := by
  induction joined with
  | single text => exact closes text (List.mem_singleton_self text)
  | cons text separates rest ih =>
    exact ((ih (List.forall_mem_cons.mp closes).2).append_left _).append_left _

theorem Joined.head (joined : Joined keyword texts cs)
    (solid : ∀ text ∈ texts, ∃ c more, text = c :: more ∧ isAsciiBlank c = false) :
    ∀ c, cs.head? = some c → isAsciiBlank c = false := by
  intro c begins
  obtain ⟨first, others, rfl⟩ := List.exists_cons_of_ne_nil joined.ne_nil
  obtain ⟨rest, rfl⟩ := joined.starts
  obtain ⟨d, more, rfl, notBlank⟩ := solid first List.mem_cons_self
  obtain rfl := Option.some.inj begins
  exact notBlank

theorem separatorHere?_eq_some {after : List Char}
    (found : separatorHere? keyword scanner cs = some after) :
    scanner.atTopLevel = true ∧ afterSeparator? keyword cs = some after := by
  unfold separatorHere? at found
  split at found
  · next top => exact ⟨top, found⟩
  · cases found

theorem isSeparator_of_afterSeparator? {after : List Char} (word : IsKeyword keyword)
    (found : afterSeparator? keyword cs = some after) :
    ∃ between, IsSeparator keyword between ∧ cs = between ++ after := by
  obtain ⟨blanks, d, tail, nonempty, blank, closes, rfl⟩ := afterSeparator?_eq_some found
  rw [afterSeparator?_of_blanks word blank nonempty closes] at found
  obtain rfl := Option.some.inj found
  refine ⟨blanks ++ (keyword ++ d :: tail.takeWhile isAsciiBlank),
    ⟨blanks, d :: tail.takeWhile isAsciiBlank, nonempty, List.cons_ne_nil _ _, ?_, rfl⟩, ?_⟩
  · refine List.forall_mem_append.mpr ⟨blank, List.forall_mem_cons.mpr ⟨closes, fun c member => ?_⟩⟩
    exact List.mem_takeWhile_imp member
  · rw [List.append_assoc, List.append_assoc, List.cons_append, List.takeWhile_append_dropWhile]

theorem Joined.consPiece {pieces : List (List Char)} (c : Char)
    (joined : Joined keyword pieces cs) : Joined keyword (consPiece c pieces) (c :: cs) := by
  cases joined with
  | single => exact .single (c :: cs)
  | cons text separates rest => exact .cons (c :: text) separates rest

theorem joined_of_piecesFrom (word : IsKeyword keyword) {pieces : List (List Char)}
    (found : piecesFrom keyword scanner cs = .ok pieces) : Joined keyword pieces cs := by
  fun_induction piecesFrom keyword scanner cs generalizing pieces with
  | case1 scanner cs after separated ih =>
    obtain ⟨more, later, found⟩ := bind_eq_ok.mp found
    obtain rfl := Except.ok.inj found
    obtain ⟨between, separates, rfl⟩ :=
      isSeparator_of_afterSeparator? word (separatorHere?_eq_some separated).2
    exact .cons [] separates (ih later)
  | case2 scanner quiet top =>
    obtain rfl := Except.ok.inj found
    exact .single []
  | case3 scanner quiet inside => nomatch found
  | case4 scanner c rest quiet stuck => nomatch found
  | case5 scanner c rest quiet next move ih =>
    obtain ⟨more, later, found⟩ := bind_eq_ok.mp found
    obtain rfl := Except.ok.inj found
    exact (ih later).consPiece c

/-- Texts that are each one piece behind those before them, joined by separators, split into
themselves. -/
theorem piecesFrom_joined (word : IsKeyword keyword) (joined : Joined keyword texts cs)
    (solid : ∀ text ∈ texts, ∃ c more, text = c :: more ∧ isAsciiBlank c = false)
    (pieces : ∀ front text back, texts = front ++ text :: back →
      PieceBehind keyword (before ++ front.flatten) text)
    (outside : scanner.Outside 0) (remembers : scanner.Remembers before) :
    piecesFrom keyword scanner cs = .ok texts := by
  induction joined generalizing before scanner with
  | single text =>
    have piece := pieces [] text [] rfl
    rw [List.flatten_nil, List.append_nil] at piece
    obtain ⟨last, outside', -, whole⟩ := piece scanner outside remembers [] nofun
    rw [List.append_nil, piecesFrom_nil outside'] at whole
    rw [whole, Except.map, foldr_consPiece, List.append_nil]
  | @cons texts between joined text separates rest ih =>
    have piece := pieces [] text texts rfl
    rw [List.flatten_nil, List.append_nil] at piece
    obtain ⟨d, more, between_eq, blank⟩ := separates.head
    obtain ⟨last, outside', run, whole⟩ := piece scanner outside remembers (between ++ joined) (by
      rintro c first
      rw [between_eq] at first
      obtain rfl := Option.some.inj first
      exact blank)
    have solid' := (List.forall_mem_cons.mp solid).2
    -- The scanner goes on behind the separator with the text before it in mind.
    have behind : piecesFrom keyword last joined = .ok texts := by
      refine ih solid' (fun front other back shape => ?_) outside' (remembers.run run)
      have piece := pieces (text :: front) other back (by rw [shape]; rfl)
      rwa [List.flatten_cons, ← List.append_assoc] at piece
    rw [whole, piecesFrom_separator outside' (separates.after word (rest.head solid')), behind]
    simp only [Except.map, foldr_consPiece, List.append_nil]

end Pieces

end EdgePolicy.Expression
