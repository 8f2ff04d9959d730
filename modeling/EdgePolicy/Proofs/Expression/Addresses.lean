import EdgePolicy.Expression.Shape
import EdgePolicy.Proofs.Expression.Enclosed
import EdgePolicy.Proofs.Expression.Soundness

/-
Sets of addresses that an expression was found to hold.

Addresses stand without quotes, so one may carry parentheses or be a keyword.  An expression that
was split with such a set in one piece had its parentheses in balance and no keyword between blanks
outside of them (`Follows`).  Both are properties of the items alone and not of the blanks between
them, so the set holds together when it is written again (`crosses_of_follows`), as long as its
parentheses can be counted.
-/

set_option autoImplicit false
set_option relaxedAutoImplicit false

namespace EdgePolicy.Expression

open Text (isAsciiBlank isBlank isGap isBlank_of_isGap isAsciiBlank_of_isGap)

/-- The number of open parentheses behind a character without a quote, from the number before it;
none if it closes what nothing opened or opens more than the limit. -/
def paren (limit depth : Nat) (c : Char) : Option Nat :=
  if c = '(' then if depth < limit then some (depth + 1) else none
  else if c = ')' then if 0 < depth then some (depth - 1) else none
  else some depth

def parens (limit depth : Nat) (cs : List Char) : Option Nat := cs.foldlM (paren limit) depth

section Counting

variable {limit depth last : Nat} {c : Char} {cs : List Char} {scanner next : Scanner}

private theorem parens_cons (limit depth : Nat) (c : Char) (cs : List Char) :
    parens limit depth (c :: cs) = (paren limit depth c).bind fun middle => parens limit middle cs :=
  List.foldlM_cons

private theorem paren_plain (plain : isPlain c = true) : paren limit depth c = some depth := by
  simp only [isPlain, Bool.and_eq_true, bne_iff_ne] at plain
  simp [paren, plain.1.2, plain.2]

private theorem parens_plain (plain : ∀ c ∈ cs, isPlain c = true) :
    parens limit depth cs = some depth := by
  induction cs with
  | nil => rfl
  | cons c cs ih =>
    obtain ⟨here, others⟩ := List.forall_mem_cons.mp plain
    rw [parens_cons, paren_plain here, Option.bind_some, ih others]

private theorem Scanner.paren_of_step (outside : scanner.literal = none) (notQuote : c ≠ '"')
    (move : scanner.step c = some next) (room : next.level ≤ limit) :
    next.literal = none ∧ paren limit scanner.level c = some next.level := by
  rcases step_outside outside move with ⟨quote, -⟩ | ⟨rfl, moves⟩ | ⟨outer, rfl, deep, moves⟩ |
    ⟨plain, rfl⟩
  · exact absurd quote notQuote
  · rw [moves.level_eq] at room ⊢
    exact ⟨moves.literal.trans outside, by simp [paren, Nat.lt_of_succ_le room]⟩
  · refine ⟨moves.literal.trans outside, ?_⟩
    simp [paren, deep, moves.level_eq]
  · exact ⟨outside, paren_plain plain⟩

private theorem Scanner.step_of_paren {outer : Nat} (outside : scanner.Outside (outer + depth))
    (fits : outer + limit ≤ deepest) (notQuote : c ≠ '"') (nests : paren limit depth c = some last) :
    ∃ next, scanner.step c = some next ∧ next.Outside (outer + last) := by
  unfold paren at nests
  split at nests
  · next opening =>
    subst opening
    split at nests
    · next room =>
      obtain rfl := Option.some.inj nests
      obtain ⟨next, move, moves⟩ :=
        step_open outside.literal (outside.level_eq ▸ (by omega : outer + depth < deepest))
      exact ⟨next, move, moves.literal.trans outside.literal, moves.escaped.trans outside.escaped,
        moves.level_eq.trans (congrArg (· + 1) outside.level_eq)⟩
    · cases nests
  · split at nests
    · next closing =>
      subst closing
      split at nests
      · next deep =>
        obtain rfl := Option.some.inj nests
        have level : scanner.level = outer + (depth - 1) + 1 := by
          rw [outside.level_eq]
          omega
        obtain ⟨next, move, moves⟩ := step_close outside.literal level
        exact ⟨next, move, moves.literal.trans outside.literal,
          moves.escaped.trans outside.escaped, moves.level_eq⟩
      · cases nests
    · next notOpen notClose =>
      obtain rfl := Option.some.inj nests
      have plain : isPlain c = true := by simp [isPlain, notQuote, notOpen, notClose]
      exact ⟨_, step_of_isPlain outside.literal plain, outside.remember c⟩

end Counting

section Found

variable {limit : Nat} {keyword : List Char} {scanner last : Scanner} {u v cs behind : List Char}

private theorem Quiet.counts (quiet : Quiet limit keyword scanner u behind last)
    (outside : scanner.literal = none) (noQuote : '"' ∉ u) :
    last.literal = none ∧ parens limit scanner.level u = some last.level := by
  induction quiet with
  | done scanner behind => exact ⟨outside, rfl⟩
  | @step scanner next last c cs behind move room quiet tail ih =>
    simp only [List.mem_cons, not_or] at noQuote
    obtain ⟨outside', counted⟩ := Scanner.paren_of_step outside (Ne.symm noQuote.1) move room
    obtain ⟨outside'', counted'⟩ := ih outside' noQuote.2
    exact ⟨outside'', by rw [parens_cons, counted, Option.bind_some, counted']⟩

theorem Quiet.stays (quiet : Quiet limit keyword scanner cs behind last)
    (outside : scanner.literal = none) (plain : ∀ c ∈ cs, isPlain c = true) :
    last.literal = none ∧ last.level = scanner.level := by
  have noQuote : '"' ∉ cs := fun member => absurd (plain '"' member) (by decide)
  obtain ⟨outside', counted⟩ := quiet.counts outside noQuote
  exact ⟨outside', Option.some.inj (counted.symm.trans (parens_plain plain))⟩

end Found

section Items

variable {limit : Nat} {keyword : List Char}

/-- How items follow one another at a depth of parentheses: outside of them only the last item may
be the keyword. -/
def Follows (limit : Nat) (keyword : List Char) : Nat → List (List Char) → Nat → Prop
  | depth, [], last => depth = last
  | depth, item :: items, last =>
    (depth = 0 → items ≠ [] → item ≠ keyword) ∧
      ∃ middle, parens limit depth item = some middle ∧ Follows limit keyword middle items last

private theorem afterSeparator?_gaps (word : IsKeyword keyword) {c d : Char} {gap : List Char}
    (behind : List Char) (gaps : ∀ c' ∈ c :: gap, isGap c' = true) (gap' : isGap d = true) :
    (afterSeparator? keyword (c :: (gap ++ (keyword ++ d :: behind)))).isSome = true := by
  obtain ⟨blank, others⟩ := List.forall_mem_cons.mp gaps
  have stands : (gap ++ (keyword ++ d :: behind)).dropWhile isAsciiBlank =
      keyword ++ d :: behind := by
    rw [List.dropWhile_append_of_pos fun c' member => isAsciiBlank_of_isGap (others c' member)]
    obtain ⟨k, ks, rfl⟩ := List.exists_cons_of_ne_nil word.nonempty
    simp [word.not_blank List.mem_cons_self]
  simp [afterSeparator?, isAsciiBlank_of_isGap blank, isAsciiBlank_of_isGap gap', stands,
    Text.expect?_append]

theorem Quiet.follows (word : IsKeyword keyword) {items : List (List Char)}
    {text behind : List Char} (spaced : Spaced items text) {scanner last : Scanner}
    (quiet : Quiet limit keyword scanner text behind last) (outside : scanner.literal = none) :
    last.literal = none ∧ ∃ first others depth, items = first :: others ∧
      parens limit scanner.level first = some depth ∧
        Follows limit keyword depth others last.level := by
  induction spaced generalizing scanner with
  | @last item bare =>
    obtain ⟨outside', nests⟩ := quiet.counts outside fun member => (bare.solid member).1 rfl
    exact ⟨outside', item, [], last.level, rfl, nests, rfl⟩
  | @cons item gap text items bare nonempty gaps tail ih =>
    obtain ⟨middle, overItem, quiet⟩ := quiet.split
    obtain ⟨middle', overGap, overTail⟩ := quiet.split
    obtain ⟨outside₁, nests⟩ := overItem.counts outside fun member => (bare.solid member).1 rfl
    obtain ⟨outside₂, level⟩ := overGap.stays outside₁ fun c member =>
      isPlain_of_isBlank (isBlank_of_isGap (gaps c member))
    obtain ⟨outside₃, first, others, depth, rfl, nests', follows⟩ := ih overTail outside₂
    rw [level] at nests'
    refine ⟨outside₃, item, first :: others, middle.level, rfl, nests, ?_, depth, nests', follows⟩
    -- The first gap character before a keyword with an item behind it would begin a separator.
    rintro top more rfl
    obtain ⟨c, gap, rfl⟩ := List.exists_cons_of_ne_nil nonempty
    cases tail with
    | last => exact more rfl
    | @cons _ gap' text _ _ nonempty' gaps' _ =>
      obtain ⟨d, gap', rfl⟩ := List.exists_cons_of_ne_nil nonempty'
      cases overGap with
      | step _ _ unseparated _ =>
        have atTop : middle.atTopLevel = true := Scanner.atTopLevel_iff.mpr ⟨outside₁, top⟩
        have found := afterSeparator?_gaps word (gap' ++ (text ++ behind)) gaps
          (gaps' d List.mem_cons_self)
        rw [separatorHere?, if_pos atTop] at unseparated
        simp only [List.append_assoc, List.cons_append] at unseparated
        rw [unseparated] at found
        cases found

private theorem passes_item {item : List Char}
    (solid : ∀ c ∈ item, c ≠ '"' ∧ isAsciiBlank c = false) {outer depth next : Nat}
    (fits : outer + limit ≤ deepest) (nests : parens limit depth item = some next)
    {scanner : Scanner} (outside : scanner.Outside (outer + depth)) :
    ∃ last, last.Outside (outer + next) ∧ Passes keyword scanner item last := by
  induction item generalizing depth scanner with
  | nil =>
    obtain rfl := Option.some.inj nests
    exact ⟨scanner, outside, .done scanner⟩
  | cons c cs ih =>
    obtain ⟨⟨notQuote, notBlank⟩, others⟩ := List.forall_mem_cons.mp solid
    rw [parens_cons, Option.bind_eq_some_iff] at nests
    obtain ⟨middle, counted, nests⟩ := nests
    obtain ⟨first, stepped, outside₁⟩ := Scanner.step_of_paren outside fits notQuote counted
    obtain ⟨last, outside', passage⟩ := ih others nests outside₁
    exact ⟨last, outside', .step stepped (fun _ => separatorHere?_of_notBlank notBlank _) passage⟩

private theorem unlike_closed (word : IsKeyword keyword) {item : List Char} (bare : IsBare item) :
    Unlike keyword (item ++ ['\x7d']) := by
  by_cases same : item = keyword
  · subst same
    intro rest
    obtain ⟨k, ks, rfl⟩ := List.exists_cons_of_ne_nil bare.nonempty
    have stands : ((k :: ks) ++ ('\x7d' :: rest)).dropWhile isAsciiBlank =
        (k :: ks) ++ ('\x7d' :: rest) := by
      simp [word.not_blank List.mem_cons_self]
    have closed : isAsciiBlank '\x7d' = false := by decide
    simp only [afterSeparator?, List.append_assoc, List.singleton_append, stands,
      Text.expect?_append, closed]
    simp
  · exact word.unlike item (fun c member => (bare.solid member).2) same (by decide)
      (fun empty => absurd empty bare.nonempty)

private theorem passes_follows (word : IsKeyword keyword) {depth : Nat}
    (fits : depth + limit ≤ deepest) {items : List (List Char)}
    (bare : ∀ item ∈ items, IsBare item) {level : Nat}
    (follows : Follows limit keyword level items 0) {scanner : Scanner}
    (outside : scanner.Outside (depth + level)) :
    ∃ last, last.Outside depth ∧
      Passes keyword scanner (items.flatMap (' ' :: ·) ++ ['\x7d']) last := by
  induction items generalizing level scanner with
  | nil =>
    obtain rfl : level = 0 := follows
    exact Crosses.solid (by decide) scanner outside
  | cons item items ih =>
    obtain ⟨here, others⟩ := List.forall_mem_cons.mp bare
    obtain ⟨unlike, middle, nests, behind⟩ := follows
    obtain ⟨next, outside₁, overItem⟩ : ∃ next, next.Outside (depth + middle) ∧
        Passes keyword (scanner.remember ' ') item next :=
      passes_item (fun c member => here.solid member) fits nests (outside.remember ' ')
    obtain ⟨last, outside₂, overRest⟩ := ih others behind outside₁
    have quiet : ∀ rest, separatorHere? keyword scanner
        (' ' :: (item ++ (items.flatMap (' ' :: ·) ++ ['\x7d']) ++ rest)) = none := by
      cases items with
      | nil => exact separatorHere?_of_unlike (unlike_closed word here)
      | cons next more =>
        by_cases top : depth + level = 0
        · have other : item ≠ keyword := unlike (by omega) (List.cons_ne_nil _ _)
          refine separatorHere?_of_unlike ?_
          exact word.unlike item (fun c member => (here.solid member).2) other (by decide)
            (fun empty => absurd empty here.nonempty)
        · have inside : scanner.atTopLevel = false :=
            Scanner.atTopLevel_of_level (outside.level_eq ▸ top)
          exact fun rest => separatorHere?_inside inside _
    refine ⟨last, outside₂, ?_⟩
    have whole := Passes.step (Scanner.step_plain outside (by decide)) quiet
      (overItem.append overRest)
    simpa using whole

end Items

section Sets

variable {limit : Nat} {keyword : List Char}

private theorem intercalate_blank (first : List Char) (others : List (List Char)) :
    [' '].intercalate (first :: others) = first ++ others.flatMap (' ' :: ·) := by
  induction others generalizing first with
  | nil => simp [List.intercalate]
  | cons second others ih =>
    rw [List.intercalate_cons_cons, ih]
    simp

private theorem follows_of_wasRead (word : IsKeyword keyword) {texts : List (List Char)}
    {front text ending : List Char} (spaced : Spaced texts text)
    (plain : ∀ c ∈ front, isPlain c = true) (plain' : ∀ c ∈ ending, isPlain c = true)
    (read : WasRead limit keyword (front ++ (text ++ ending))) :
    ∃ first others depth, texts = first :: others ∧ parens limit 0 first = some depth ∧
      Follows limit keyword depth others 0 := by
  obtain ⟨start, behind, last, top, -, top', quiet⟩ := read
  rw [Scanner.atTopLevel_iff] at top top'
  obtain ⟨_, overFront, quiet⟩ := quiet.split
  obtain ⟨_, overText, overEnd⟩ := quiet.split
  obtain ⟨outside₁, level₁⟩ := overFront.stays top.1 plain
  obtain ⟨outside₂, first, others, depth, rfl, nests, follows⟩ :=
    overText.follows word spaced outside₁
  obtain ⟨-, level₂⟩ := overEnd.stays outside₂ plain'
  rw [level₁, top.2] at nests
  rw [← level₂, top'.2] at follows
  exact ⟨first, others, depth, rfl, nests, follows⟩

/-- Items that follow one another are crossed when they are written as a set. -/
theorem crosses_of_follows (listed : keyword ∈ separators) {first : List Char}
    {others : List (List Char)} (bare : ∀ item ∈ first :: others, IsBare item) {level : Nat}
    (nests : parens limit 0 first = some level) (follows : Follows limit keyword level others 0)
    {depth : Nat} (fits : depth + limit ≤ deepest) :
    Crosses keyword depth (' ' :: setOf (first :: others)) := by
  obtain ⟨here, later⟩ := List.forall_mem_cons.mp bare
  have items : Crosses keyword depth ([' '].intercalate (first :: others) ++ ['\x7d']) := by
    intro scanner outside
    obtain ⟨middle, outside₁, overFirst⟩ : ∃ middle, middle.Outside (depth + level) ∧
        Passes keyword scanner first middle :=
      passes_item (fun c member => here.solid member) fits nests outside
    obtain ⟨last, outside₂, overRest⟩ :=
      passes_follows (isKeyword_of_mem listed) fits later follows outside₁
    refine ⟨last, outside₂, ?_⟩
    rw [intercalate_blank, List.append_assoc]
    exact overFirst.append overRest
  exact .blank (unlike_of_initial listed (by decide) (by decide) _) (.solid_cons (by decide) items)

/-- A set of addresses holds together when it is written again, if its clause, blanks around it
aside, was read without finding a separator of either kind and leaves room for the parentheses of a
group. -/
theorem coherent_of_read {cs : List Char} {c : Condition} (read : addressIn? cs = some c)
    (quiet : ∀ keyword ∈ separators, ∃ lead trail, (∀ d ∈ lead, isBlank d = true) ∧
      (∀ d ∈ trail, isBlank d = true) ∧
        WasRead (deepest - 1) keyword (lead ++ (cs ++ trail))) : Coherent c := by
  obtain ⟨texts, text, front, gap, rfl, spaced, plain, gaps, rfl⟩ := addressIn?_eq_some read
  intro _ _ _ keyword listed depth shallow
  have fits : depth + (deepest - 1) ≤ deepest := by
    have room := lt_deepest shallow
    omega
  obtain ⟨lead, trail, blanks, blanks', wasRead⟩ := quiet keyword listed
  have opening : ∀ d ∈ lead ++ front, isPlain d = true :=
    List.forall_mem_append.mpr ⟨fun d member => isPlain_of_isBlank (blanks d member), plain⟩
  have ending : ∀ d ∈ gap ++ ('\x7d' :: trail), isPlain d = true :=
    List.forall_mem_append.mpr
      ⟨fun d member => isPlain_of_isBlank (isBlank_of_isGap (gaps d member)),
        List.forall_mem_cons.mpr ⟨by decide, fun d member => isPlain_of_isBlank (blanks' d member)⟩⟩
  have shape : lead ++ (front ++ (text ++ (gap ++ ['\x7d'])) ++ trail) =
      (lead ++ front) ++ (text ++ (gap ++ ('\x7d' :: trail))) := by
    simp
  rw [shape] at wasRead
  obtain ⟨first, others, level, rfl, nests, follows⟩ :=
    follows_of_wasRead (isKeyword_of_mem listed) spaced opening ending wasRead
  have written : ((first :: others).map String.ofList).map String.toList = first :: others := by
    simp [Function.comp_def]
  have items : (Condition.of .sourceAddress .within
      (.many ((first :: others).map String.ofList))).operand.items =
      (first :: others).map String.ofList := rfl
  rw [items, written]
  exact crosses_of_follows listed spaced.bare nests follows fits

end Sets

end EdgePolicy.Expression
