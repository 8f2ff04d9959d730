import EdgePolicy.Proofs.Expression.Joined

/-
Clauses that are judged on their own text.

A clause that stands on its own (`StandsAlone`) keeps its reading when it is joined with others into
groups and these into an expression, and every clause is a condition or is left over as it would be
alone (`decompile_joined`).  The one thing that can go wrong is the literal that a clause begins
with.  Behind a separator the splitter still has the end of the clause before in mind, so it may take
a raw literal for a quoted one (`not_decompile_joined`).
-/

set_option autoImplicit false
set_option relaxedAutoImplicit false

namespace EdgePolicy.Expression

open Text (trimChars isBlank isAsciiBlank isBlank_of_isAsciiBlank)

/-- The text of a clause on its own: nothing of it is to be trimmed or split off, it is neither in
parentheses nor the clause of a host, and its last word is not the keyword of its group.  Its own
parentheses can still be counted within those of a group, so they are nested less deep than the
scanner can count. -/
structure StandsAlone (text : List Char) : Prop where
  nonempty : text ≠ []
  trimmed : trimChars text = text
  unopened : text.head? ≠ some '('
  whole : ∀ keyword ∈ separators, split keyword text = .ok [text]
  hostless : host? text = none
  enclosable : isBalanced ('(' :: text ++ [')']) = true
  unfinished : ∀ front blank, isAsciiBlank blank = true → text ≠ front ++ blank :: andWord

/-- A group as it may be written: its clauses and that of the host, joined, in parentheses. -/
def IsGroupText (domain : String) (texts : List (List Char)) (raw : List Char) : Prop :=
  ∃ inside, Joined andWord (texts ++ [hostClause domain]) inside ∧ raw = '(' :: inside ++ [')']

/-- An expression as it may be written: its groups, joined. -/
def IsExpressionText (domain : String) (groups : List (List (List Char))) (cs : List Char) : Prop :=
  ∃ raws, List.Forall₂ (IsGroupText domain) groups raws ∧ Joined orWord raws cs

/-- Behind the clauses before it each clause of a group begins with a literal of the same kind as
alone, if with any, or with one that ends at the same quote in either kind. -/
def literalsKept : List Char → List (List Char) → Bool
  | _, [] => true
  | before, text :: texts =>
    (Scanner.behind before).opensAlike .start text && literalsKept (before ++ text) texts

private theorem opensAlike_of_literalsKept {before text : List Char}
    {front texts back : List (List Char)} (kept : literalsKept before texts = true)
    (shape : texts = front ++ text :: back) :
    (Scanner.behind (before ++ front.flatten)).opensAlike .start text = true := by
  subst shape
  induction front generalizing before with
  | nil =>
    rw [List.flatten_nil, List.append_nil]
    exact (Bool.and_eq_true_iff.mp kept).1
  | cons first front ih =>
    rw [List.flatten_cons, ← List.append_assoc]
    exact ih (Bool.and_eq_true_iff.mp kept).2

section Ends

variable {cs : List Char} {c : Char}

private theorem notBlank_of_notUnicodeBlank (notBlank : isBlank c = false) :
    isAsciiBlank c = false := by
  rw [← Bool.not_eq_true]
  intro blank
  exact absurd (notBlank.symm.trans (isBlank_of_isAsciiBlank blank)) Bool.false_ne_true

private theorem isBlank_head_dropWhile (first : (cs.dropWhile isBlank).head? = some c) :
    isBlank c = false := by
  have stops := List.head?_dropWhile_not isBlank cs
  rw [first] at stops
  exact stops

private theorem ends_of_trimmed (trimmed : trimChars cs = cs) :
    (∀ c, cs.head? = some c → isBlank c = false) ∧
      ∀ c, cs.getLast? = some c → isBlank c = false := by
  have back : (cs.dropWhile isBlank).reverse.dropWhile isBlank = cs.reverse := by
    rw [← List.reverse_inj, List.reverse_reverse]
    exact trimmed
  have front : cs.dropWhile isBlank = cs := by
    refine (List.dropWhile_suffix isBlank).eq_of_length_le ?_
    have shorter := (List.dropWhile_suffix isBlank (l := (cs.dropWhile isBlank).reverse)).length_le
    rwa [back, List.length_reverse, List.length_reverse] at shorter
  constructor
  · intro c first
    rw [← front] at first
    exact isBlank_head_dropWhile first
  · intro c last
    rw [← List.head?_reverse, ← back] at last
    exact isBlank_head_dropWhile last

end Ends

namespace StandsAlone

variable {text before : List Char} (stands : StandsAlone text)

include stands

theorem uncut {keyword : List Char} (listed : keyword ∈ separators) : Uncut keyword .start text :=
  uncut_of_piecesFrom (split_ok.mp (stands.whole keyword listed))

private theorem run_enclosed : ∃ opened last : Scanner,
    opened.Outside 1 ∧ opened.Fresh ∧ opened.run text = some last := by
  obtain ⟨opened, opens, moves⟩ : ∃ opened, Scanner.start.step '(' = some opened ∧
      Scanner.start.Moves '(' 1 opened :=
    Scanner.step_open rfl (lt_deepest (Nat.zero_le 1))
  have enclosable := stands.enclosable
  unfold isBalanced at enclosable
  split at enclosable
  · next closed run =>
    rw [List.cons_append, Scanner.run, opens, Option.bind_some, Scanner.run_append] at run
    obtain ⟨last, run, -⟩ := Option.bind_eq_some_iff.mp run
    refine ⟨opened, last, ⟨moves.literal, moves.escaped, moves.level_eq⟩, fun c latest => ?_, run⟩
    obtain rfl := Option.some.inj (moves.last.symm.trans latest)
    decide
  · cases enclosable

theorem fits {depth : Nat} (shallow : depth ≤ 1) : Fits orWord depth text := by
  have uncut := stands.uncut andWord_mem
  rcases Nat.le_one_iff_eq_zero_or_eq_one.mp shallow with rfl | rfl
  · obtain ⟨last, run⟩ := uncut.run
    exact uncut.fits Scanner.outside_start Scanner.fresh_start run
  · obtain ⟨opened, last, outside, fresh, run⟩ := stands.run_enclosed
    exact uncut.fits outside fresh run

theorem solid : ∃ c more, text = c :: more ∧ isAsciiBlank c = false := by
  obtain ⟨c, more, rfl⟩ := List.exists_cons_of_ne_nil stands.nonempty
  exact ⟨c, more, rfl, notBlank_of_notUnicodeBlank ((ends_of_trimmed stands.trimmed).1 c rfl)⟩

private theorem endsApart : EndsApart andWord text where
  solid c last := notBlank_of_notUnicodeBlank ((ends_of_trimmed stands.trimmed).2 c last)
  word := stands.unfinished

theorem checked : checkClause text = .ok () := by
  simp [checkClause, stands.trimmed, stands.unopened, stands.whole orWord orWord_mem,
    stands.hostless, bind, Except.bind, pure, Except.pure]

end StandsAlone

section Groups

variable {domain : String} {texts : List (List Char)} {raw : List Char}

private theorem fits_clauses (stands : ∀ text ∈ texts, StandsAlone text) {depth : Nat}
    (shallow : depth ≤ 1) :
    ∀ text ∈ texts ++ [hostClause domain], Fits orWord depth text := by
  refine List.forall_mem_append.mpr ⟨fun text member => ?_, List.forall_mem_singleton.mpr ?_⟩
  · exact (stands text member).fits shallow
  · exact ((isClause_hostClause domain).crosses orWord orWord_mem depth shallow).1.fits

private theorem solid_clauses (stands : ∀ text ∈ texts, StandsAlone text) :
    ∀ text ∈ texts ++ [hostClause domain], ∃ c more, text = c :: more ∧ isAsciiBlank c = false :=
  List.forall_mem_append.mpr ⟨fun text member => (stands text member).solid,
    List.forall_mem_singleton.mpr (isClause_hostClause domain).notBlank⟩

theorem IsGroupText.crosses (written : IsGroupText domain texts raw)
    (stands : ∀ text ∈ texts, StandsAlone text) : Crosses orWord 0 raw := by
  obtain ⟨inside, joined, rfl⟩ := written
  exact (joined.fits isKeyword_andWord (fits_clauses stands le_rfl)).parenthesized
    (lt_deepest (Nat.zero_le 1))

theorem IsGroupText.opens (written : IsGroupText domain texts raw) : ∃ more, raw = '(' :: more := by
  obtain ⟨inside, -, rfl⟩ := written
  exact ⟨inside ++ [')'], rfl⟩

theorem IsGroupText.closes (written : IsGroupText domain texts raw) : Closes raw := by
  obtain ⟨inside, -, rfl⟩ := written
  exact (closes_singleton (by decide)).append_left _

private theorem trimChars_of_parentheses {cs more : List Char} (opens : cs = '(' :: more)
    (closes : Closes cs) : trimChars cs = cs := by
  subst opens
  exact trimChars_of_first (by decide) closes

private theorem pieceBehind_clauses (stands : ∀ text ∈ texts, StandsAlone text)
    (kept : literalsKept [] texts = true) {before behind : List (List Char)} {text : List Char}
    (shape : texts ++ [hostClause domain] = before ++ text :: behind) :
    PieceBehind andWord before.flatten text := by
  rcases List.eq_nil_or_concat behind with rfl | ⟨front, last, rfl⟩
  · obtain ⟨-, same⟩ := List.append_inj' shape rfl
    obtain rfl := (List.cons.inj same).1
    exact ((isClause_hostClause domain).crosses andWord andWord_mem 0
      (Nat.zero_le 1)).1.pieceBehind
  · rw [List.concat_eq_append, ← List.cons_append, ← List.append_assoc] at shape
    obtain ⟨rfl, -⟩ := List.append_inj' shape rfl
    have alone := stands text (List.mem_append_right before List.mem_cons_self)
    exact (alone.uncut andWord_mem).pieceBehind isKeyword_andWord alone.endsApart
      (opensAlike_of_literalsKept kept rfl)

theorem IsGroupText.groupClauses (written : IsGroupText domain texts raw)
    (stands : ∀ text ∈ texts, StandsAlone text)
    (kept : literalsKept [] texts = true) :
    Expression.groupClauses raw = .ok (texts ++ [hostClause domain]) := by
  obtain ⟨more, opens⟩ := written.opens
  have trimmed := trimChars_of_parentheses opens written.closes
  obtain ⟨inside, joined, rfl⟩ := written
  have balanced := isBalanced_of_fits
    (joined.fits isKeyword_andWord (fits_clauses stands (Nat.zero_le 1)))
  have enclosed : groupInside ('(' :: inside ++ [')']) = .ok inside := by
    unfold groupInside
    rw [trimmed]
    simp [balanced]
  have cut : split andWord inside = .ok (texts ++ [hostClause domain]) :=
    split_ok.mpr (piecesFrom_joined isKeyword_andWord joined (solid_clauses stands)
      (fun before text behind shape => by
        rw [List.nil_append]
        exact pieceBehind_clauses stands kept shape)
      Scanner.outside_start Scanner.remembers_start)
  exact bind_eq_ok.mpr ⟨inside, enclosed, cut⟩

private theorem isRead_clauses {alone : Bool} (stands : ∀ text ∈ texts, StandsAlone text)
    (filled : texts = [] → alone = true) : IsRead alone domain (texts ++ [hostClause domain]) where
  host := by simp [host?_hostClause]
  checked := by
    rw [List.dropLast_concat]
    exact fun text member => (stands text member).checked
  filled := by
    rw [List.dropLast_concat]
    exact filled

end Groups

private theorem exists_of_forall₂ {α β : Type} {R : α → β → Prop} {items : List α} {values : List β}
    (related : List.Forall₂ R items values) {value : β} (member : value ∈ values) :
    ∃ item ∈ items, R item value := by
  induction related with
  | nil => nomatch member
  | cons first others ih =>
    rcases List.mem_cons.mp member with rfl | member
    · exact ⟨_, List.mem_cons_self, first⟩
    · obtain ⟨item, held, here⟩ := ih member
      exact ⟨item, List.mem_cons_of_mem _ held, here⟩

private theorem split_groups {groups : List (List (List Char))} {domain : String}
    {raws : List (List Char)} {cs : List Char}
    (written : List.Forall₂ (IsGroupText domain) groups raws) (joined : Joined orWord raws cs)
    (stands : ∀ texts ∈ groups, ∀ text ∈ texts, StandsAlone text) :
    split orWord (trimChars cs) = .ok raws := by
  have group : ∀ raw ∈ raws, ∃ texts ∈ groups, IsGroupText domain texts raw :=
    fun raw member => exists_of_forall₂ written member
  have opens : ∀ raw ∈ raws, ∃ more, raw = '(' :: more := fun raw member => by
    obtain ⟨texts, -, written⟩ := group raw member
    exact written.opens
  have crosses : ∀ raw ∈ raws, Crosses orWord 0 raw := fun raw member => by
    obtain ⟨texts, member', written⟩ := group raw member
    exact written.crosses (stands texts member')
  have closes : Closes cs := joined.closes fun raw member => by
    obtain ⟨texts, -, written⟩ := group raw member
    exact written.closes
  have starts : ∃ more, cs = '(' :: more := by
    obtain ⟨first, others, rfl⟩ := List.exists_cons_of_ne_nil joined.ne_nil
    obtain ⟨rest, rfl⟩ := joined.starts
    obtain ⟨more, rfl⟩ := opens first List.mem_cons_self
    exact ⟨more ++ rest, rfl⟩
  obtain ⟨more, begins⟩ := starts
  rw [trimChars_of_parentheses begins closes]
  refine split_ok.mpr (piecesFrom_joined isKeyword_orWord joined (fun raw member => ?_)
    (fun before raw behind shape => ?_) Scanner.outside_start Scanner.remembers_start)
  · obtain ⟨more, rfl⟩ := opens raw member
    exact ⟨'(', more, rfl, by decide⟩
  · exact (crosses raw (by rw [shape]; exact List.mem_append_right _ List.mem_cons_self)).pieceBehind

/-- Clauses that stand on their own, joined with the clause of a host into groups and these into an
expression, are judged on their own text: the expression is read for the host, each clause that a
shape recognises is a condition in its place, and every other one is left over with its group, its
position and its text.  This takes that the clauses of a group keep the literals they begin with. -/
theorem decompile_joined {groups : List (List (List Char))} {domain expression : String}
    (written : IsExpressionText domain groups expression.toList)
    (filled : ∀ texts ∈ groups, texts = [] → groups.length = 1)
    (stands : ∀ texts ∈ groups, ∀ text ∈ texts, StandsAlone text)
    (kept : ∀ texts ∈ groups, literalsKept [] texts = true) :
    ∃ decompiled, decompile expression = .ok decompiled ∧ decompiled.host = domain ∧
      decompiled.groups.map (·.conditions) =
        ((groups.map (·.filterMap condition?)).filter (· ≠ [])).mapIdx (fun i conditions =>
          conditions.mapIdx fun j c => c.joined (joinAt i j)) ∧
      decompiled.skipped = groups.zipIdx.flatMap fun entry =>
        entry.1.zipIdx.filterMap (leftOver? entry.2) := by
  obtain ⟨raws, groupTexts, joined⟩ := written
  let clauses := groups.map (· ++ [hostClause domain])
  have whole := split_groups groupTexts joined stands
  have cut : List.Forall₂ (fun raw group => groupClauses raw = .ok group) raws clauses := by
    refine List.forall₂_map_right_iff.mpr (List.Forall₂.flip ?_)
    have each := (List.forall₂_and_left groups raws).mpr ⟨fun texts member =>
      And.intro (stands texts member) (kept texts member), groupTexts⟩
    exact each.imp fun texts raw ⟨⟨stands, kept⟩, written⟩ => written.groupClauses stands kept
  have read : ∀ group ∈ clauses, IsRead (clauses.length == 1) domain group := by
    refine List.forall_mem_map.mpr fun texts member => ?_
    refine isRead_clauses (stands texts member) fun empty => ?_
    rw [List.length_map, filled texts member empty]
    rfl
  have filledGroups : clauses ≠ [] := by
    rintro empty
    rw [empty] at cut
    exact joined.ne_nil (List.forall₂_nil_right_iff.mp cut)
  have recognise : clauses.map recognised = groups.map (·.filterMap condition?) := by
    rw [List.map_map]
    exact List.map_congr_left fun texts _ => by simp [recognised]
  have remaining : clauses.zipIdx.flatMap leftOver =
      groups.zipIdx.flatMap fun entry => entry.1.zipIdx.filterMap (leftOver? entry.2) := by
    rw [List.zipIdx_map, List.flatMap_map]
    exact List.flatMap_congr fun entry _ => by simp [leftOver]
  refine ⟨_, decompile_read whole cut read, ?_, ?_, ?_⟩
  · obtain ⟨first, others, shape⟩ := List.exists_cons_of_ne_nil filledGroups
    rw [shape]
    rfl
  · rw [groups_assemble, conditions_canonical_eq, map_conditions_filterMap, recognise]
  · rw [skipped_assemble, remaining]

section Written

variable {keyword : List Char}

private theorem isSeparator_separator (keyword : List Char) : IsSeparator keyword
    (separator keyword) :=
  ⟨[' '], [' '], nofun, nofun, by decide, rfl⟩

private theorem joined_intercalate {texts : List (List Char)} (nonempty : texts ≠ []) :
    Joined keyword texts ((separator keyword).intercalate texts) := by
  induction texts with
  | nil => exact absurd rfl nonempty
  | cons first others ih =>
    cases others with
    | nil =>
      have alone : (separator keyword).intercalate [first] = first := by simp [List.intercalate]
      rw [alone]
      exact .single first
    | cons second others =>
      have shape : (separator keyword).intercalate (first :: second :: others) =
          first ++ (separator keyword ++ (separator keyword).intercalate (second :: others)) := by
        simp [List.intercalate, List.intersperse]
      rw [shape]
      exact .cons first (isSeparator_separator keyword) (ih (List.cons_ne_nil _ _))

private theorem isExpressionText_written {groups : List (List (List Char))} (domain : String)
    (nonempty : groups ≠ []) :
    IsExpressionText domain groups (writtenExpression domain groups) := by
  refine ⟨groups.map (writtenGroup domain), ?_, ?_⟩
  · refine List.forall₂_map_right_iff.mpr (List.forall₂_same.mpr fun texts _ => ?_)
    have joined : Joined andWord (texts ++ [hostClause domain])
        (joinWith " and ".toList (texts ++ [hostClause domain])) := by
      rw [joinWith, andSeparator_eq]
      exact joined_intercalate (by simp)
    exact ⟨_, joined, rfl⟩
  · rw [writtenExpression, joinWith, orSeparator_eq]
    exact joined_intercalate (by simpa using nonempty)

end Written

section Samples

private theorem standsAlone_of_checks {text : List Char}
    (checks : text ≠ [] ∧ trimChars text = text ∧ text.head? ≠ some '(' ∧
      (∀ keyword ∈ separators, split keyword text = .ok [text]) ∧ host? text = none ∧
      isBalanced ('(' :: text ++ [')']) = true)
    (last : ¬ andWord <:+ text) : StandsAlone text where
  nonempty := checks.1
  trimmed := checks.2.1
  unopened := checks.2.2.1
  whole := checks.2.2.2.1
  hostless := checks.2.2.2.2.1
  enclosable := checks.2.2.2.2.2
  unfinished front blank _ same := last ⟨front ++ [blank], by simp [same]⟩

/-- A clause that a shape recognises. -/
def botClause : List Char := "cf.client.bot".toList

def rawClause : List Char := "r\"a\\d\"".toList

private theorem standsAlone_botClause : StandsAlone botClause :=
  standsAlone_of_checks (by decide +kernel) (by decide)

private theorem standsAlone_rawClause : StandsAlone rawClause :=
  standsAlone_of_checks (by decide +kernel) (by decide)

def sampleClauses : List (List (List Char)) := [[botClause, rawClause], [rawClause]]

theorem decompile_joined_sample :
    (IsExpressionText "a.b" sampleClauses (writtenExpression "a.b" sampleClauses) ∧
      (∀ texts ∈ sampleClauses, texts = [] → sampleClauses.length = 1) ∧
      (∀ texts ∈ sampleClauses, ∀ text ∈ texts, StandsAlone text) ∧
      ∀ texts ∈ sampleClauses, literalsKept [] texts = true) ∧
    ∃ decompiled, decompile (String.ofList (writtenExpression "a.b" sampleClauses)) =
        .ok decompiled ∧ decompiled.host = "a.b" ∧
      decompiled.groups.map (·.conditions) = [[.of .knownBot .eq (.flag true)]] ∧
      decompiled.skipped = [⟨0, 1, "r\"a\\d\""⟩, ⟨1, 0, "r\"a\\d\""⟩] := by
  have nonempty : sampleClauses ≠ [] := nofun
  have written := isExpressionText_written "a.b" nonempty
  have filled : ∀ texts ∈ sampleClauses, texts = [] → sampleClauses.length = 1 := by decide
  have stands : ∀ texts ∈ sampleClauses, ∀ text ∈ texts, StandsAlone text := by
    refine List.forall_mem_cons.mpr ⟨List.forall_mem_cons.mpr ⟨standsAlone_botClause, ?_⟩, ?_⟩
    · exact List.forall_mem_singleton.mpr standsAlone_rawClause
    · exact List.forall_mem_singleton.mpr (List.forall_mem_singleton.mpr standsAlone_rawClause)
  have kept : ∀ texts ∈ sampleClauses, literalsKept [] texts = true := by decide
  refine ⟨⟨written, filled, stands, kept⟩, ?_⟩
  rw [← String.toList_ofList (l := writtenExpression "a.b" sampleClauses)] at written
  obtain ⟨decompiled, done, host, conditions, skipped⟩ :=
    decompile_joined written filled stands kept
  have recognised : decompiled.groups.map (·.conditions) = _ := conditions
  have remaining : decompiled.skipped = _ := skipped
  refine ⟨decompiled, done, host, recognised.trans ?_, remaining.trans ?_⟩
  · decide +kernel
  · decide +kernel

/-- A raw literal whose last character is a backslash. -/
def bentClause : List Char := "r\"a\\\"".toList

def bentExpression : String := "(cf.client.bot and r\"a\\\" and http.host eq \"d.io\")"

private theorem standsAlone_bentClause : StandsAlone bentClause :=
  standsAlone_of_checks (by decide +kernel) (by decide)

/-- Behind another clause a raw literal is taken for a quoted one, its backslash for an escape, and
the expression cannot be read, though every clause of it stands on its own. -/
theorem not_decompile_joined :
    (IsExpressionText "d.io" [[botClause, bentClause]] bentExpression.toList ∧
      ∀ text ∈ [botClause, bentClause], StandsAlone text ∧ isBalanced text = true ∧
        ∀ keyword ∈ separators, ¬ keyword <+: text ∧ ¬ keyword <:+ text) ∧
    ∀ decompiled, decompile bentExpression ≠ .ok decompiled := by
  have nonempty : [[botClause, bentClause]] ≠ [] := nofun
  have written := isExpressionText_written "d.io" nonempty
  have same : writtenExpression "d.io" [[botClause, bentClause]] = bentExpression.toList := by
    decide +kernel
  have refused : (decompile bentExpression).isOk = false := by decide +kernel
  rw [same] at written
  refine ⟨⟨written, ?_⟩, fun decompiled done => ?_⟩
  · exact List.forall_mem_cons.mpr ⟨⟨standsAlone_botClause, by decide, by decide⟩,
      List.forall_mem_singleton.mpr ⟨standsAlone_bentClause, by decide, by decide⟩⟩
  · rw [done] at refused
    nomatch refused

end Samples

end EdgePolicy.Expression
