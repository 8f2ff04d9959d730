import EdgePolicy.Proofs.Expression.RoundTrip

/-
Every clause of a decompiled expression is accounted for.

`clausesOf` cuts an expression into the clauses of its groups, as the decompiler does.  A clause
either stands for a condition or is left over (`leftOver?`), and reading a group keeps the two lists
in the order of the clauses (`readClauses_ok`, `readGroup_ok`).  What happens to the groups on the
way out, marking and partitioning, keeps their boundaries, so `decompile_accounts` can say for every
clause where it went.
-/

set_option autoImplicit false
set_option relaxedAutoImplicit false

namespace EdgePolicy

/-- One clause stands before another: in an earlier group, or earlier in the same group. -/
def SkippedClause.Before (one other : SkippedClause) : Prop :=
  one.group < other.group ∨ one.group = other.group ∧ one.position < other.position

namespace Expression

open Text (trimChars)

def groupClauses (raw : List Char) : Except ExpressionFault (List (List Char)) := do
  split andWord (← groupInside raw)

/-- The clauses of every group of an expression. -/
def clausesOf (expression : String) : Except ExpressionFault (List (List (List Char))) := do
  (← split orWord (trimChars expression.toList)).mapM groupClauses

/-- The conditions of a group: of its clauses before the last one, those that a shape recognises. -/
def recognised (clauses : List (List Char)) : List Condition :=
  clauses.dropLast.filterMap condition?

/-- The entry of a clause at a place, if no shape recognises it. -/
def leftOver? (group : Nat) (entry : List Char × Nat) : Option SkippedClause :=
  if (condition? entry.1).isSome then none
  else some ⟨group, entry.2, String.ofList (trimChars entry.1)⟩

/-- The entries of the clauses of a group before the last one that no shape recognises. -/
def leftOver (group : List (List Char) × Nat) : List SkippedClause :=
  group.1.dropLast.zipIdx.filterMap (leftOver? group.2)

/-- Where the clauses of the groups of an expression went. -/
structure Accounts (clauses : List (List (List Char))) (decompiled : Decompiled) : Prop where
  /-- There is a group. -/
  nonempty : clauses ≠ []
  /-- The last clause of every group names the host. -/
  host : ∀ group ∈ clauses, ∃ last, group.getLast? = some last ∧ host? last = some decompiled.host
  /-- Any other clause either is recognised and not reported, or is reported exactly once. -/
  once : ∀ i group, clauses[i]? = some group → ∀ j clause, group.dropLast[j]? = some clause →
    decompiled.skipped.filter (fun entry => entry.group = i ∧ entry.position = j) =
      if (condition? clause).isSome then [] else [⟨i, j, String.ofList (trimChars clause)⟩]
  /-- Nothing else is reported. -/
  only : ∀ entry ∈ decompiled.skipped, ∃ group clause,
    clauses[entry.group]? = some group ∧ group.dropLast[entry.position]? = some clause
  /-- Reports stand in the order of the clauses. -/
  ordered : decompiled.skipped.Pairwise SkippedClause.Before
  /-- The groups with recognised clauses are kept in order, each with exactly their conditions. -/
  groups : decompiled.groups.map (·.conditions) =
    ((clauses.map recognised).filter (· ≠ [])).mapIdx fun i conditions =>
      conditions.mapIdx fun j c => c.joined (joinAt i j)
  /-- A group of the host alone is the only group. -/
  alone : ∀ group ∈ clauses, group.dropLast = [] → clauses.length = 1

section Reading

variable {alone : Bool} {texts : List (List Char)}

/-- What reading clauses from a position on gives. -/
theorem readClauses_ok {group position : Nat} {read : List Condition × List SkippedClause}
    (done : readClauses group position texts = .ok read) :
    read = (texts.filterMap condition?, (texts.zipIdx position).filterMap (leftOver? group)) ∧
      ∀ text ∈ texts, checkClause text = .ok () := by
  induction texts generalizing position read with
  | nil =>
    obtain rfl := Except.ok.inj done
    exact ⟨rfl, by simp⟩
  | cons text rest ih =>
    obtain ⟨⟨⟩, checked, done⟩ := bind_eq_ok.mp done
    obtain ⟨behind, others, done⟩ := bind_eq_ok.mp done
    obtain ⟨rfl, checks⟩ := ih others
    refine ⟨?_, List.forall_mem_cons.mpr ⟨checked, checks⟩⟩
    cases shape : condition? text with
    | none =>
      simp only [shape] at done
      simp [← Except.ok.inj done, shape, leftOver?]
    | some condition =>
      simp only [shape] at done
      simp [← Except.ok.inj done, shape, leftOver?]

/-- What it takes for the clauses of a group to be read for a host. -/
structure IsRead (alone : Bool) (host : String) (clauses : List (List Char)) : Prop where
  host : clauses.getLast?.bind host? = some host
  checked : ∀ text ∈ clauses.dropLast, checkClause text = .ok ()
  filled : clauses.dropLast = [] → alone = true

def readingOf (host : String) (group : List (List Char) × Nat) : GroupReading :=
  ⟨host, recognised group.1, leftOver group⟩

theorem readGroup_ok {group : Nat} {expected : Option String} {raw : List Char}
    {reading : GroupReading} (done : readGroup alone group expected raw = .ok reading) :
    ∃ clauses, groupClauses raw = .ok clauses ∧ IsRead alone reading.host clauses ∧
      reading = readingOf reading.host (clauses, group) ∧
      ∀ other, expected = some other → other = reading.host := by
  obtain ⟨inside, opened, done⟩ := bind_eq_ok.mp done
  obtain ⟨clauses, pieces, done⟩ := bind_eq_ok.mp done
  obtain ⟨host, last, done⟩ := bind_eq_ok.mp done
  have agrees : ∀ other, expected = some other → other = host := by
    rintro other rfl
    by_contra differs
    simp only [ne_eq, differs, not_false_eq_true, if_true] at done
    exact nomatch done
  -- The host agrees, so what is left is to read the clauses and to refuse a group of the host alone.
  have rest : (readClauses group 0 clauses.dropLast >>= fun read =>
      if read.1.isEmpty && read.2.isEmpty && !alone then .error (.hostOnly group)
      else .ok ⟨host, read.1, read.2⟩) = .ok reading := by
    cases expected with
    | none => simpa [bind, Except.bind, pure, Except.pure] using done
    | some other =>
      obtain rfl := agrees other rfl
      simpa [bind, Except.bind, pure, Except.pure] using done
  obtain ⟨read, readAll, rest⟩ := bind_eq_ok.mp rest
  obtain ⟨rfl, checked⟩ := readClauses_ok readAll
  split at rest
  · exact nomatch rest
  · next filled =>
    obtain rfl := Except.ok.inj rest
    have named : clauses.getLast?.bind host? = some host := by
      unfold trailingHost at last
      split at last
      · next found => exact found.trans (congrArg some (Except.ok.inj last))
      · exact nomatch last
    have filled : clauses.dropLast = [] → alone = true := by
      intro empty
      simpa [empty] using filled
    exact ⟨clauses, bind_eq_ok.mpr ⟨inside, opened, pieces⟩, ⟨named, checked, filled⟩, rfl, agrees⟩

private theorem readGroups_ok {start : Nat} {expected : Option String} {raws : List (List Char)}
    {readings : List GroupReading} (done : readGroups alone start expected raws = .ok readings) :
    ∃ host clauses, raws.mapM groupClauses = .ok clauses ∧
      (∀ group ∈ clauses, IsRead alone host group) ∧
      readings = (clauses.zipIdx start).map (readingOf host) ∧
      ∀ other, expected = some other → other = host := by
  induction raws generalizing start expected readings with
  | nil =>
    obtain rfl := Except.ok.inj done
    exact ⟨expected.getD "", [], rfl, by simp, rfl, by rintro other rfl; rfl⟩
  | cons raw raws ih =>
    obtain ⟨reading, first, done⟩ := bind_eq_ok.mp done
    obtain ⟨others, behind, done⟩ := bind_eq_ok.mp done
    obtain rfl := Except.ok.inj done
    obtain ⟨clauses, cut, read, shape, agrees⟩ := readGroup_ok first
    obtain ⟨host, rest, cutRest, readRest, rfl, agreesRest⟩ := ih behind
    obtain rfl : reading.host = host := agreesRest reading.host rfl
    refine ⟨reading.host, clauses :: rest, ?_, List.forall_mem_cons.mpr ⟨read, readRest⟩, ?_, agrees⟩
    · simp [List.mapM_cons, cut, cutRest, bind, Except.bind, pure, Except.pure]
    · rw [List.zipIdx_cons, List.map_cons, ← shape]

private theorem readClauses_checked (group position : Nat)
    (checked : ∀ text ∈ texts, checkClause text = .ok ()) :
    readClauses group position texts =
      .ok (texts.filterMap condition?, (texts.zipIdx position).filterMap (leftOver? group)) := by
  induction texts generalizing position with
  | nil => rfl
  | cons text rest ih =>
    obtain ⟨here, others⟩ := List.forall_mem_cons.mp checked
    have behind := ih (position + 1) others
    cases shape : condition? text <;>
      simp [readClauses, here, behind, shape, leftOver?, bind, Except.bind, pure, Except.pure]

theorem IsRead.readGroup {host : String} {clauses : List (List Char)} (read : IsRead alone host clauses)
    {group : Nat} {expected : Option String} {raw : List Char}
    (cut : groupClauses raw = .ok clauses)
    (agrees : ∀ other, expected = some other → other = host) :
    Expression.readGroup alone group expected raw = .ok (readingOf host (clauses, group)) := by
  obtain ⟨inside, opened, pieces⟩ := bind_eq_ok.mp cut
  have last : trailingHost group clauses = .ok host := by
    rw [trailingHost, read.host]
  have all := readClauses_checked group 0 read.checked
  have kept : ((clauses.dropLast.filterMap condition?).isEmpty &&
      (clauses.dropLast.zipIdx.filterMap (leftOver? group)).isEmpty && !alone) = false := by
    cases items : clauses.dropLast with
    | nil => simp [read.filled items]
    | cons first others =>
      cases shape : condition? first <;> simp [shape, leftOver?]
  unfold Expression.readGroup
  cases expected with
  | none =>
    simp only [opened, pieces, last, all, kept, bind, Except.bind, pure, Except.pure]
    rfl
  | some other =>
    obtain rfl := agrees other rfl
    simp only [opened, pieces, last, all, kept, bind, Except.bind, pure, Except.pure]
    simp [readingOf, recognised, leftOver]

private theorem readGroups_read {host : String} {raws : List (List Char)}
    {clauses : List (List (List Char))}
    (cut : List.Forall₂ (fun raw group => groupClauses raw = .ok group) raws clauses)
    (read : ∀ group ∈ clauses, IsRead alone host group) (start : Nat) {expected : Option String}
    (agrees : ∀ other, expected = some other → other = host) :
    readGroups alone start expected raws = .ok ((clauses.zipIdx start).map (readingOf host)) := by
  induction cut generalizing start expected with
  | nil => rfl
  | cons first others ih =>
    obtain ⟨here, behind⟩ := List.forall_mem_cons.mp read
    have reading : readGroup alone start expected _ = _ := here.readGroup first agrees
    have agrees' : ∀ other, some host = some other → other = host :=
      fun other same => (Option.some.inj same).symm
    have rest := ih behind (start + 1) agrees'
    simp only [readGroups, reading, readingOf, rest, bind, Except.bind, pure, Except.pure]
    rfl

theorem piecesFrom_ne_nil {keyword cs : List Char} {scanner : Scanner} {pieces : List (List Char)}
    (done : piecesFrom keyword scanner cs = .ok pieces) : pieces ≠ [] := by
  unfold piecesFrom at done
  split at done
  · obtain ⟨behind, -, done⟩ := bind_eq_ok.mp done
    rw [← Except.ok.inj done]
    exact List.cons_ne_nil _ _
  · split at done
    · split at done
      · rw [← Except.ok.inj done]
        exact List.cons_ne_nil _ _
      · cases done
    · split at done
      · cases done
      · obtain ⟨behind, -, done⟩ := bind_eq_ok.mp done
        rw [← Except.ok.inj done]
        cases behind <;> exact List.cons_ne_nil _ _

theorem split_ok {keyword cs : List Char} {pieces : List (List Char)} :
    split keyword cs = .ok pieces ↔ piecesFrom keyword .start cs = .ok pieces := by
  unfold split
  split <;> simp_all

theorem split_ne_nil {keyword cs : List Char} {pieces : List (List Char)}
    (done : split keyword cs = .ok pieces) : pieces ≠ [] :=
  piecesFrom_ne_nil (split_ok.mp done)

/-- What a decompiled expression is made of: clauses of groups that were all read for its host, put
together. -/
theorem decompile_ok {expression : String} {decompiled : Decompiled}
    (done : decompile expression = .ok decompiled) :
    ∃ clauses, clausesOf expression = .ok clauses ∧ clauses ≠ [] ∧
      (∀ group ∈ clauses, IsRead (clauses.length == 1) decompiled.host group) ∧
      decompiled = assemble (clauses.zipIdx.map (readingOf decompiled.host)) := by
  unfold decompile decompileChars at done
  dsimp only at done
  split at done
  · exact nomatch done
  obtain ⟨raws, whole, done⟩ := bind_eq_ok.mp done
  obtain ⟨readings, read, done⟩ := bind_eq_ok.mp done
  obtain rfl := Except.ok.inj done
  obtain ⟨host, clauses, cut, reads, rfl, -⟩ := readGroups_ok read
  have same := forall₂_of_mapM cut
  have nonempty : clauses ≠ [] := by
    rintro rfl
    exact split_ne_nil whole (List.forall₂_nil_right_iff.mp same)
  have named : (assemble (clauses.zipIdx.map (readingOf host))).host = host := by
    obtain ⟨first, others, rfl⟩ := List.exists_cons_of_ne_nil nonempty
    rfl
  rw [same.length_eq] at reads
  rw [named]
  exact ⟨clauses, bind_eq_ok.mpr ⟨raws, whole, cut⟩, nonempty, reads, rfl⟩

theorem decompile_read {expression host : String} {raws : List (List Char)}
    {clauses : List (List (List Char))}
    (whole : split orWord (trimChars expression.toList) = .ok raws)
    (cut : List.Forall₂ (fun raw group => groupClauses raw = .ok group) raws clauses)
    (read : ∀ group ∈ clauses, IsRead (clauses.length == 1) host group) :
    decompile expression = .ok (assemble (clauses.zipIdx.map (readingOf host))) := by
  have filled : (trimChars expression.toList).isEmpty = false := by
    cases text : trimChars expression.toList with
    | cons c cs => rfl
    | nil =>
      -- The only group of an empty text is not in parentheses.
      rw [text, split_ok.mpr (piecesFrom_nil Scanner.outside_start)] at whole
      obtain rfl := Except.ok.inj whole
      cases cut with
      | cons first others => nomatch first
  have readings : readGroups (clauses.length == 1) 0 none raws = _ := readGroups_read cut read 0 nofun
  unfold decompile decompileChars
  simp only [filled, whole, cut.length_eq, readings, bind, Except.bind, pure, Except.pure]
  rfl

end Reading

section Assembly

variable {clauses : List (List (List Char))} {host : String}

theorem conditions_canonical_eq (groups : List Group) :
    (Group.canonical groups).map (·.conditions) =
      (groups.map (·.conditions)).mapIdx fun i conditions =>
        conditions.mapIdx fun j c => c.joined (joinAt i j) := by
  apply List.ext_getElem?
  intro index
  simp [Group.canonical, List.getElem?_mapIdx, Function.comp_def, joins_eq_mapIdx]

theorem map_conditions_filterMap (lists : List (List Condition)) :
    (lists.filterMap Group.ofList?).map (·.conditions) = lists.filter (· ≠ []) := by
  induction lists with
  | nil => rfl
  | cons conditions lists ih =>
    by_cases empty : conditions = []
    · simp [Group.ofList?, empty, ih]
    · simp [Group.ofList?, empty, ih]

theorem groups_assemble (clauses : List (List (List Char))) (host : String) :
    (assemble (clauses.zipIdx.map (readingOf host))).groups =
      Group.canonical ((clauses.map recognised).filterMap Group.ofList?) := by
  have lists : clauses.zipIdx.map (fun group => recognised group.1) = clauses.map recognised := by
    conv_rhs => rw [← List.zipIdx_map_fst 0 clauses, List.map_map]
    rfl
  unfold assemble marked
  rw [Group.partition_tagged, ← lists]
  simp only [List.filterMap_map]
  rfl

theorem skipped_assemble (clauses : List (List (List Char))) (host : String) :
    (assemble (clauses.zipIdx.map (readingOf host))).skipped = clauses.zipIdx.flatMap leftOver := by
  simp only [assemble, List.flatMap_map]
  rfl

private theorem mem_leftOver {group : List (List Char)} {i : Nat} {entry : SkippedClause} :
    entry ∈ leftOver (group, i) ↔ ∃ clause, group.dropLast[entry.position]? = some clause ∧
      condition? clause = none ∧ entry = ⟨i, entry.position, String.ofList (trimChars clause)⟩ := by
  simp only [leftOver, List.mem_filterMap, Prod.exists, List.mem_zipIdx_iff_getElem?, leftOver?,
    Option.ite_none_left_eq_some, Bool.not_eq_true, Option.isSome_eq_false_iff,
    Option.isNone_iff_eq_none, Option.some.injEq]
  constructor
  · rintro ⟨clause, position, found, unread, rfl⟩
    exact ⟨clause, found, unread, rfl⟩
  · rintro ⟨clause, found, unread, same⟩
    exact ⟨clause, entry.position, found, unread, same.symm⟩

theorem mem_leftOvers {entry : SkippedClause} :
    entry ∈ clauses.zipIdx.flatMap leftOver ↔ ∃ group clause,
      clauses[entry.group]? = some group ∧ group.dropLast[entry.position]? = some clause ∧
        condition? clause = none ∧ entry.raw = String.ofList (trimChars clause) := by
  simp only [List.mem_flatMap, Prod.exists, List.mem_zipIdx_iff_getElem?, mem_leftOver]
  constructor
  · rintro ⟨group, i, inGroups, clause, found, unread, same⟩
    rw [same]
    exact ⟨group, clause, inGroups, found, unread, rfl⟩
  · rintro ⟨group, clause, inGroups, found, unread, text⟩
    exact ⟨group, entry.group, inGroups, clause, found, unread, by rw [← text]⟩

private theorem pairwise_zipIdx {α : Type} (items : List α) :
    items.zipIdx.Pairwise fun one other => one.2 < other.2 := by
  rw [← List.pairwise_map (f := Prod.snd) (R := (· < ·)), List.zipIdx_map_snd]
  exact List.pairwise_lt_range'

private theorem ordered_leftOver (group : List (List Char) × Nat) :
    (leftOver group).Pairwise SkippedClause.Before := by
  refine List.Pairwise.filterMap _ (fun one other before entry here behind there => ?_)
    (pairwise_zipIdx group.1.dropLast)
  simp only [leftOver?, Option.ite_none_left_eq_some, Option.some.injEq] at here there
  obtain ⟨-, rfl⟩ := here
  obtain ⟨-, rfl⟩ := there
  exact .inr ⟨rfl, before⟩

private theorem ordered_leftOvers (clauses : List (List (List Char))) :
    (clauses.zipIdx.flatMap leftOver).Pairwise SkippedClause.Before := by
  rw [List.pairwise_flatMap]
  refine ⟨fun group _ => ordered_leftOver group, (pairwise_zipIdx clauses).imp ?_⟩
  intro one other before entry here behind there
  obtain ⟨_, _, _, here⟩ := mem_leftOver.mp here
  obtain ⟨_, _, _, there⟩ := mem_leftOver.mp there
  rw [here, there]
  exact .inl before

private theorem filter_place {entries : List SkippedClause}
    (ordered : entries.Pairwise SkippedClause.Before) {entry : SkippedClause}
    (member : entry ∈ entries) :
    entries.filter (fun other => other.group = entry.group ∧ other.position = entry.position) =
      [entry] := by
  obtain ⟨front, back, rfl⟩ := List.append_of_mem member
  obtain ⟨-, behind, before⟩ := List.pairwise_append.mp ordered
  have inFront : ∀ other ∈ front,
      ¬ (other.group = entry.group ∧ other.position = entry.position) := by
    intro other listed
    have := before other listed entry List.mem_cons_self
    unfold SkippedClause.Before at this
    omega
  have inBack : ∀ other ∈ back,
      ¬ (other.group = entry.group ∧ other.position = entry.position) := by
    intro other listed
    have := List.rel_of_pairwise_cons behind listed
    unfold SkippedClause.Before at this
    omega
  rw [List.filter_append, List.filter_eq_nil_iff.mpr (by simpa using inFront),
    List.filter_cons_of_pos (by simp), List.filter_eq_nil_iff.mpr (by simpa using inBack),
    List.nil_append]

end Assembly

/-- Nothing is dropped silently: every clause of a decompiled expression is a host clause, or stands
for a condition of its group, or is reported at its place. -/
theorem decompile_accounts {expression : String} {decompiled : Decompiled}
    (done : decompile expression = .ok decompiled) :
    ∃ clauses, clausesOf expression = .ok clauses ∧ Accounts clauses decompiled := by
  obtain ⟨clauses, cut, nonempty, reads, whole⟩ := decompile_ok done
  have skipped : decompiled.skipped = clauses.zipIdx.flatMap leftOver := by
    rw [whole]
    exact skipped_assemble clauses _
  have groups : decompiled.groups =
      Group.canonical ((clauses.map recognised).filterMap Group.ofList?) := by
    rw [whole]
    exact groups_assemble clauses _
  have ordered : decompiled.skipped.Pairwise SkippedClause.Before := skipped ▸ ordered_leftOvers clauses
  refine ⟨clauses, cut, ⟨nonempty, fun group member => ?_, fun i group inGroups j clause found => ?_,
    fun entry member => ?_, ordered, ?_, fun group member empty => ?_⟩⟩
  · exact Option.bind_eq_some_iff.mp (reads group member).host
  · cases shape : condition? clause with
    | none =>
      have reported : ⟨i, j, String.ofList (trimChars clause)⟩ ∈ decompiled.skipped := by
        rw [skipped]
        exact mem_leftOvers.mpr ⟨group, clause, inGroups, found, shape, rfl⟩
      exact filter_place ordered reported
    | some condition =>
      rw [Option.isSome_some, if_pos rfl, List.filter_eq_nil_iff]
      intro entry member
      rw [skipped] at member
      obtain ⟨group', clause', inGroups', found', unread, -⟩ := mem_leftOvers.mp member
      rw [decide_eq_true_eq]
      rintro ⟨rfl, rfl⟩
      obtain rfl := Option.some.inj (inGroups.symm.trans inGroups')
      obtain rfl := Option.some.inj (found.symm.trans found')
      exact nomatch shape.symm.trans unread
  · rw [skipped] at member
    obtain ⟨group, clause, inGroups, found, -, -⟩ := mem_leftOvers.mp member
    exact ⟨group, clause, inGroups, found⟩
  · rw [groups, conditions_canonical_eq, map_conditions_filterMap]
  · simpa using (reads group member).filled empty

/-- A group with a clause that is recognised and one that is not, and a group with none that is. -/
def mixedExpression : String :=
  "(cf.client.bot and ip.src eq 1.1.1.1 and http.host eq \"a.b\") or " ++
    "(ssl and http.host eq \"a.b\")"

theorem decompile_accounts_sample :
    decompile mixedExpression = .ok ⟨"a.b", [⟨[.of .knownBot .eq (.flag true)], by simp⟩],
      [⟨0, 1, "ip.src eq 1.1.1.1"⟩, ⟨1, 0, "ssl"⟩]⟩ ∧
    ∃ clauses, clausesOf mixedExpression = .ok clauses ∧
      Accounts clauses ⟨"a.b", [⟨[.of .knownBot .eq (.flag true)], by simp⟩],
        [⟨0, 1, "ip.src eq 1.1.1.1"⟩, ⟨1, 0, "ssl"⟩]⟩ := by
  have done : decompile mixedExpression = .ok ⟨"a.b", [⟨[.of .knownBot .eq (.flag true)], by simp⟩],
      [⟨0, 1, "ip.src eq 1.1.1.1"⟩, ⟨1, 0, "ssl"⟩]⟩ := by decide +kernel
  exact ⟨done, decompile_accounts done⟩

end Expression

end EdgePolicy
