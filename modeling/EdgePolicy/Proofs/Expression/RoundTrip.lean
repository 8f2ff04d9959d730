import Mathlib.Data.List.Forall2
import EdgePolicy.Expression.Compile
import EdgePolicy.Expression.Decompile
import EdgePolicy.Proofs.Condition.Groups
import EdgePolicy.Proofs.Expression.Selection

/-
Compiled expressions decompile.

A group is followed through the reader in the order of its steps: its parentheses enclose all of it
(`groupInside_groupText`), its inside splits into the clauses that were written (`split_clauses`),
every clause passes the checks and reads back (`readClauses_written`), and so does the group
(`readGroup_written`).  `decompile_compile` puts the groups of an expression together.
-/

set_option autoImplicit false
set_option relaxedAutoImplicit false

namespace EdgePolicy

namespace Expression

open Text (trimChars isBlank isBlank_of_isAsciiBlank isAsciiBlank)

/-- A text that the scanner crosses for both keywords and that begins like a clause. -/
structure IsClause (cs : List Char) : Prop where
  crosses : ∀ keyword ∈ separators, ∀ depth ≤ 1, Crosses keyword depth cs ∧ Unlike keyword cs
  opens : Opens cs

theorem Writes.isClause {c : Condition} {cs : List Char} (writes : Writes c cs)
    (coherent : Coherent c) : IsClause cs :=
  ⟨fun _ listed _ shallow => writes.crosses listed coherent shallow, writes.opens⟩

theorem isClause_hostClause (domain : String) : IsClause (hostClause domain) := by
  rw [hostClause_eq]
  refine ⟨fun keyword listed depth _ => ?_, opens_comparison isPath_host _ _⟩
  exact crosses_pathComparison listed isPath_host (token_listed .eq (by decide))
    (crosses_value listed domain.toList)

section Groups

variable {texts : List (List Char)}

theorem andSeparator_eq : " and ".toList = separator andWord := String.toList_ofList

theorem orSeparator_eq : " or ".toList = separator orWord := String.toList_ofList

theorem orWord_mem : orWord ∈ separators := by decide

theorem andWord_mem : andWord ∈ separators := by decide

theorem crosses_inside (clauses : ∀ text ∈ texts, IsClause text) {depth : Nat} (shallow : depth ≤ 1) :
    Crosses orWord depth (joinWith " and ".toList texts) := by
  unfold joinWith
  rw [andSeparator_eq]
  exact Crosses.intercalate isKeyword_orWord (by decide) (by decide) (by decide)
    fun text member => (clauses text member).crosses orWord orWord_mem depth shallow

private theorem crosses_groupText (clauses : ∀ text ∈ texts, IsClause text) :
    Crosses orWord 0 (groupText texts) :=
  .parenthesized (lt_deepest (Nat.zero_le 1)) (crosses_inside clauses le_rfl)

private theorem trimChars_groupText (texts : List (List Char)) :
    trimChars (groupText texts) = groupText texts := by
  have notBlank : isBlank '(' = false := by decide
  have closing : Closes [')'] := closes_singleton (by decide)
  have shape : groupText texts = '(' :: (joinWith " and ".toList texts ++ [')']) := rfl
  have closes : Closes (groupText texts) := closing.append_left _
  rw [shape] at closes ⊢
  exact trimChars_of_first notBlank closes

theorem isBalanced_of_crosses {keyword cs : List Char} (crosses : Crosses keyword 0 cs) :
    isBalanced cs = true := by
  obtain ⟨last, outside, passage⟩ := crosses Scanner.start Scanner.outside_start
  rw [isBalanced, passage.run]
  exact outside.atTopLevel

theorem groupInside_groupText (clauses : ∀ text ∈ texts, IsClause text) :
    groupInside (groupText texts) = .ok (joinWith " and ".toList texts) := by
  have balanced : isBalanced (joinWith " and ".toList texts) = true :=
    isBalanced_of_crosses (crosses_inside clauses (Nat.zero_le 1))
  unfold groupInside
  rw [trimChars_groupText]
  unfold groupText
  generalize joinWith " and ".toList texts = inner at balanced ⊢
  simp [balanced]

theorem IsClause.notBlank {text : List Char} (clause : IsClause text) :
    ∃ c cs, text = c :: cs ∧ isAsciiBlank c = false := by
  obtain ⟨c, cs, rfl, notBlank, -⟩ := clause.opens
  refine ⟨c, cs, rfl, ?_⟩
  rw [← Bool.not_eq_true]
  intro blank
  simp [isBlank_of_isAsciiBlank blank] at notBlank

private theorem split_of_crosses {keyword : List Char} (word : IsKeyword keyword)
    {first : List Char} {others : List (List Char)}
    (crosses : ∀ text ∈ first :: others, Crosses keyword 0 text)
    (solid : ∀ text ∈ others, ∃ c cs, text = c :: cs ∧ isAsciiBlank c = false) :
    split keyword ((separator keyword).intercalate (first :: others)) = .ok (first :: others) := by
  unfold split
  rw [piecesFrom_intercalate word first others crosses solid Scanner.outside_start]

theorem split_clauses (nonempty : texts ≠ []) (clauses : ∀ text ∈ texts, IsClause text) :
    split andWord (joinWith " and ".toList texts) = .ok texts := by
  obtain ⟨first, others, rfl⟩ := List.exists_cons_of_ne_nil nonempty
  unfold joinWith
  rw [andSeparator_eq]
  exact split_of_crosses isKeyword_andWord
    (fun text member => ((clauses text member).crosses andWord andWord_mem 0 (Nat.zero_le 1)).1)
    fun text member => (clauses text (List.mem_cons_of_mem first member)).notBlank

private theorem trailingHost_written (group : Nat) (texts : List (List Char)) (domain : String) :
    trailingHost group (texts ++ [hostClause domain]) = .ok domain := by
  simp [trailingHost, host?_hostClause]

private theorem checkClause_written {c : Condition} {text : List Char} (writes : Writes c text)
    (coherent : Coherent c) : checkClause text = .ok () := by
  have clause := writes.isClause coherent
  have trimmed : trimChars text = text := trimChars_of_ends writes.opens writes.closes
  have head : text.head? ≠ some '(' := by
    obtain ⟨d, rest, rfl, -, notOpen⟩ := writes.opens
    simpa using notOpen
  have whole : split orWord text = .ok [text] := by
    have crosses : Crosses orWord 0 text := (clause.crosses orWord orWord_mem 0 (Nat.zero_le 1)).1
    have pieces : split orWord ((separator orWord).intercalate [text]) = .ok [text] :=
      split_of_crosses isKeyword_orWord (List.forall_mem_singleton.mpr crosses) (by simp)
    simpa [List.intercalate] using pieces
  simp [checkClause, trimmed, head, whole, writes.host?, bind, Except.bind, pure, Except.pure]

/-- Conditions with the texts of their clauses. -/
def WritesAll (conditions : List Condition) (texts : List (List Char)) : Prop :=
  List.Forall₂ (fun c text => Writes c text ∧ Coherent c) conditions texts

theorem WritesAll.isClause {conditions : List Condition} (writes : WritesAll conditions texts) :
    ∀ text ∈ texts, IsClause text := by
  induction writes with
  | nil => simp
  | cons head tail ih => exact List.forall_mem_cons.mpr ⟨head.1.isClause head.2, ih⟩

theorem readClauses_written (group position : Nat) {conditions : List Condition}
    (writes : WritesAll conditions texts) :
    readClauses group position texts = .ok (conditions.map Condition.readBack, []) := by
  induction writes generalizing position with
  | nil => rfl
  | cons head tail ih =>
    simp [readClauses, checkClause_written head.1 head.2, ih, head.1.condition?, bind, Except.bind,
      pure, Except.pure]

theorem isClause_append_host (clauses : ∀ text ∈ texts, IsClause text) (domain : String) :
    ∀ text ∈ texts ++ [hostClause domain], IsClause text := by
  intro text member
  rcases List.mem_append.mp member with written | host
  · exact clauses text written
  · rw [List.mem_singleton.mp host]
    exact isClause_hostClause domain

end Groups

def writtenGroup (domain : String) (texts : List (List Char)) : List Char :=
  groupText (texts ++ [hostClause domain])

/-- A written group reads back, if it has conditions or stands alone. -/
theorem readGroup_written {alone : Bool} {conditions : List Condition} {texts : List (List Char)}
    (writes : WritesAll conditions texts) (domain : String) (group : Nat)
    (filled : conditions ≠ [] ∨ alone = true) {expected : Option String}
    (agrees : ∀ other, expected = some other → other = domain) :
    readGroup alone group expected (writtenGroup domain texts) =
      .ok ⟨domain, conditions.map Condition.readBack, []⟩ := by
  have clauses : ∀ text ∈ texts ++ [hostClause domain], IsClause text :=
    isClause_append_host writes.isClause domain
  have inside := groupInside_groupText clauses
  have pieces : split andWord (joinWith " and ".toList (texts ++ [hostClause domain])) =
      .ok (texts ++ [hostClause domain]) := split_clauses (by simp) clauses
  have host := trailingHost_written group texts domain
  have read := readClauses_written group 0 writes
  -- The clause of the host is taken off, and what is left was written from the conditions.
  have dropped : (texts ++ [hostClause domain]).dropLast = texts := by simp
  have kept : ((conditions.map Condition.readBack).isEmpty && ([] : List SkippedClause).isEmpty &&
      !alone) = false := by
    rcases filled with nonempty | rfl
    · simp [nonempty]
    · simp
  unfold readGroup writtenGroup
  cases expected with
  | none =>
    simp only [inside, pieces, host, dropped, read, kept, bind, Except.bind, pure, Except.pure]
    rfl
  | some other =>
    obtain rfl := agrees other rfl
    simp only [inside, pieces, host, dropped, read, kept, bind, Except.bind, pure, Except.pure]
    simp

/-- Lists of conditions with the texts of their clauses. -/
def WritesGroups (lists : List (List Condition)) (texts : List (List (List Char))) : Prop :=
  List.Forall₂ WritesAll lists texts

private theorem readGroups_written {alone : Bool} {lists : List (List Condition)}
    {texts : List (List (List Char))} (writes : WritesGroups lists texts) (domain : String)
    (filled : ∀ conditions ∈ lists, conditions ≠ [] ∨ alone = true) (group : Nat)
    {expected : Option String} (agrees : ∀ other, expected = some other → other = domain) :
    readGroups alone group expected (texts.map (writtenGroup domain)) =
      .ok (lists.map fun conditions => ⟨domain, conditions.map Condition.readBack, []⟩) := by
  induction writes generalizing group expected with
  | nil => rfl
  | cons head tail ih =>
    simp only [List.forall_mem_cons] at filled
    have read := readGroup_written head domain group filled.1 agrees
    have rest := @ih filled.2 (group + 1) (some domain) (by simp)
    simp only [List.map_cons, readGroups, read, rest, bind, Except.bind, pure, Except.pure]

/-- The text of an expression, by the texts of its clauses. -/
def writtenExpression (domain : String) (texts : List (List (List Char))) : List Char :=
  joinWith " or ".toList (texts.map (writtenGroup domain))

theorem WritesGroups.crosses {lists : List (List Condition)} {texts : List (List (List Char))}
    (writes : WritesGroups lists texts) (domain : String) :
    ∀ text ∈ texts.map (writtenGroup domain), Crosses orWord 0 text := by
  induction writes with
  | nil => simp
  | cons head tail ih =>
    exact List.forall_mem_cons.mpr
      ⟨crosses_groupText (isClause_append_host head.isClause domain), ih⟩

private theorem closes_intercalate {separator : List Char} {texts : List (List Char)}
    (closes : ∀ text ∈ texts, Closes text) (nonempty : texts ≠ []) :
    Closes (separator.intercalate texts) := by
  induction texts with
  | nil => exact absurd rfl nonempty
  | cons first others ih =>
    cases others with
    | nil => simpa [List.intercalate] using closes first List.mem_cons_self
    | cons second others =>
      rw [intercalate_cons_cons]
      have tail := ih (fun text member => closes text (List.mem_cons_of_mem first member)) (by simp)
      exact (tail.append_left separator).append_left first

theorem split_writtenExpression {lists : List (List Condition)} {texts : List (List (List Char))}
    (writes : WritesGroups lists texts) (domain : String) (nonempty : lists ≠ []) :
    split orWord (writtenExpression domain texts) = .ok (texts.map (writtenGroup domain)) := by
  obtain ⟨first, others, rfl⟩ : ∃ first others, texts = first :: others := by
    refine List.exists_cons_of_ne_nil ?_
    rintro rfl
    exact nonempty (List.forall₂_nil_right_iff.mp writes)
  unfold writtenExpression joinWith
  rw [orSeparator_eq]
  refine split_of_crosses isKeyword_orWord (writes.crosses domain) fun text member => ?_
  obtain ⟨clauses, -, rfl⟩ := List.mem_map.mp member
  exact ⟨'(', _, rfl, by decide⟩

private theorem decompileChars_written {lists : List (List Condition)}
    {texts : List (List (List Char))} (writes : WritesGroups lists texts) (domain : String)
    (nonempty : lists ≠ []) (filled : (∀ conditions ∈ lists, conditions ≠ []) ∨ lists.length = 1) :
    decompileChars (writtenExpression domain texts) =
      .ok (assemble (lists.map fun conditions =>
        ⟨domain, conditions.map Condition.readBack, []⟩)) := by
  obtain ⟨first, others, rfl⟩ : ∃ first others, texts = first :: others := by
    refine List.exists_cons_of_ne_nil ?_
    rintro rfl
    exact nonempty (List.forall₂_nil_right_iff.mp writes)
  have closes : Closes (writtenExpression domain (first :: others)) := by
    refine closes_intercalate (fun text member => ?_) (by simp)
    obtain ⟨clauses, -, rfl⟩ := List.mem_map.mp member
    exact (closes_singleton (by decide : isBlank ')' = false)).append_left _
  obtain ⟨rest, shape⟩ : ∃ rest, writtenExpression domain (first :: others) = '(' :: rest := by
    unfold writtenExpression joinWith
    cases others with
    | nil =>
      rw [List.map_singleton, intercalate_singleton]
      exact ⟨_, rfl⟩
    | cons second others =>
      rw [List.map_cons, List.map_cons, intercalate_cons_cons]
      exact ⟨_, rfl⟩
  have trimmed : trimChars (writtenExpression domain (first :: others)) =
      writtenExpression domain (first :: others) := by
    rw [shape] at closes ⊢
    exact trimChars_of_first (by decide) closes
  have pieces : split orWord (writtenExpression domain (first :: others)) =
      .ok ((first :: others).map (writtenGroup domain)) :=
    split_writtenExpression writes domain nonempty
  have read : readGroups (((first :: others).map (writtenGroup domain)).length == 1) 0 none
      ((first :: others).map (writtenGroup domain)) =
      .ok (lists.map fun conditions => ⟨domain, conditions.map Condition.readBack, []⟩) := by
    refine readGroups_written writes domain (fun conditions member => ?_) 0 (by simp)
    rcases filled with all | alone
    · exact .inl (all conditions member)
    · exact .inr (by simpa [writes.length_eq] using alone)
  have nonblank : (writtenExpression domain (first :: others)).isEmpty = false := by
    rw [shape]
    rfl
  unfold decompileChars
  simp only [trimmed, nonblank, pieces, read, bind, Except.bind, pure, Except.pure,
    Bool.false_eq_true, if_false]

private theorem writesAll_of_mapM {conditions : List Condition} {texts : List (List Char)}
    (mapped : conditions.mapM clause = .ok texts) (coherent : ∀ c ∈ conditions, Coherent c) :
    WritesAll conditions texts := by
  have clauses := forall₂_of_mapM mapped
  clear mapped
  induction clauses with
  | nil => exact .nil
  | cons head tail ih =>
    simp only [List.forall_mem_cons] at coherent
    exact .cons ⟨writes_of_clause head, coherent.1⟩ (ih coherent.2)

private theorem written_of_compileGroup {domain : String} {conditions : List Condition}
    {text : List Char} (compiled : compileGroup domain conditions = .ok text)
    (coherent : ∀ c ∈ conditions, Coherent c) :
    ∃ texts, WritesAll conditions texts ∧ text = writtenGroup domain texts := by
  obtain ⟨texts, mapped, joined⟩ := bind_eq_ok.mp compiled
  exact ⟨texts, writesAll_of_mapM mapped coherent, (Except.ok.inj joined).symm⟩

private theorem written_of_compileGroups {domain : String} {groups : List Group}
    {written : List (List Char)}
    (compiled : List.Forall₂ (fun group text => compileGroup domain group.conditions = .ok text)
      groups written)
    (coherent : ∀ group ∈ groups, ∀ c ∈ group.conditions, Coherent c) :
    ∃ texts, WritesGroups (groups.map (·.conditions)) texts ∧
      written = texts.map (writtenGroup domain) := by
  induction compiled with
  | nil => exact ⟨[], .nil, rfl⟩
  | cons head tail ih =>
    simp only [List.forall_mem_cons] at coherent
    obtain ⟨texts, writes, rfl⟩ := written_of_compileGroup head coherent.1
    obtain ⟨others, writes_others, rfl⟩ := ih coherent.2
    exact ⟨texts :: others, .cons writes writes_others, rfl⟩

private theorem written_of_coherent {groups : List Group} {domain : String} {cs : List Char}
    (compiled : compileChars groups domain = .ok cs)
    (coherent : ∀ group ∈ groups, ∀ c ∈ group.conditions, Coherent c) :
    ∃ texts, WritesGroups (if groups = [] then [[]] else groups.map (·.conditions)) texts ∧
      cs = writtenExpression domain texts := by
  unfold compileChars at compiled
  split at compiled
  · simp at compiled
  · split at compiled
    · next empty =>
      obtain rfl : groups = [] := by simpa using empty
      refine ⟨[[]], .cons .nil .nil, ?_⟩
      obtain rfl := Except.ok.inj compiled
      rw [writtenExpression, joinWith, List.map_singleton, intercalate_singleton]
      rfl
    · next filled =>
      have nonempty : groups ≠ [] := by simpa using filled
      rw [if_neg nonempty]
      obtain ⟨written, mapped, joined⟩ := bind_eq_ok.mp compiled
      obtain rfl := Except.ok.inj joined
      obtain ⟨texts, writes, rfl⟩ := written_of_compileGroups (forall₂_of_mapM mapped) coherent
      exact ⟨texts, writes, rfl⟩

/-- The text of a compiled expression is made of written clauses, if no address of a set of
addresses carries a parenthesis or is a keyword. -/
theorem written_of_compileChars {groups : List Group} {domain : String} {cs : List Char}
    (compiled : compileChars groups domain = .ok cs)
    (tame : ∀ group ∈ groups, ∀ c ∈ group.conditions, Tame c) :
    ∃ texts, WritesGroups (if groups = [] then [[]] else groups.map (·.conditions)) texts ∧
      cs = writtenExpression domain texts :=
  written_of_coherent compiled fun group inGroups c listed => (tame group inGroups c listed).coherent

/-- How the condition at a position of a group joins the one before it. -/
def joinAt (group position : Nat) : Join :=
  if position = 0 then if group = 0 then .none else .or else .and

/-- Groups as an expression knows them. -/
def readBackGroups (groups : List Group) : List (List Condition) :=
  groups.mapIdx fun i group => group.conditions.mapIdx fun j c => c.readBack.joined (joinAt i j)

theorem joins_eq_mapIdx (group : Nat) (conditions : List Condition) :
    Group.joins (Group.leadingJoin group) conditions =
      conditions.mapIdx fun j c => c.joined (joinAt group j) := by
  symm
  rw [List.mapIdx_eq_iff]
  intro position
  cases conditions with
  | nil => simp [Group.joins]
  | cons first rest =>
    cases position with
    | zero => simp [Group.joins, Group.leadingJoin, joinAt]
    | succ position => simp [Group.joins, joinAt]

def readBackGroup (group : Group) : Group :=
  ⟨group.conditions.map Condition.readBack, by simpa using group.nonempty⟩

private theorem conditions_canonical (groups : List Group) :
    (Group.canonical (groups.map readBackGroup)).map (·.conditions) = readBackGroups groups := by
  apply List.ext_getElem?
  intro index
  simp only [Group.canonical, readBackGroups, List.getElem?_map, List.getElem?_mapIdx,
    Option.map_map]
  congr 1
  funext group
  simp only [Function.comp_apply, Group.tagged, readBackGroup, joins_eq_mapIdx]
  apply List.ext_getElem?
  intro position
  simp [List.getElem?_mapIdx, Function.comp_def]

private theorem assemble_groups (domain : String) {groups : List Group} (nonempty : groups ≠ []) :
    assemble (groups.map fun group => ⟨domain, group.conditions.map Condition.readBack, []⟩) =
      ⟨domain, Group.canonical (groups.map readBackGroup), []⟩ := by
  have kept : ∀ group : Group, Group.ofList? (group.conditions.map Condition.readBack) =
      some (readBackGroup group) := fun group => Group.ofList?_conditions (readBackGroup group)
  have whole : (groups.map fun group => (⟨domain, group.conditions.map Condition.readBack, []⟩ :
      GroupReading)).filterMap (fun reading => Group.ofList? reading.conditions) =
      groups.map readBackGroup := by
    rw [List.filterMap_map]
    simp only [Function.comp_def, kept, List.filterMap_eq_map']
  obtain ⟨first, others, rfl⟩ := List.exists_cons_of_ne_nil nonempty
  unfold assemble marked
  rw [whole, Group.partition_tagged]
  simp

theorem compile_eq_ok {groups : List Group} {domain expression : String} :
    compile groups domain = .ok expression ↔ compileChars groups domain = .ok expression.toList := by
  unfold compile
  rw [map_eq_ok]
  constructor
  · rintro ⟨cs, written, rfl⟩
    rw [written, String.toList_ofList]
  · exact fun written => ⟨_, written, String.ofList_toList⟩

theorem decompile_of_coherent {groups : List Group} {domain expression : String}
    (compiled : compile groups domain = .ok expression)
    (coherent : ∀ group ∈ groups, ∀ c ∈ group.conditions, Coherent c) :
    decompile expression = .ok ⟨domain, Group.canonical (groups.map readBackGroup), []⟩ := by
  obtain ⟨texts, writes, shape⟩ := written_of_coherent (compile_eq_ok.mp compiled) coherent
  unfold decompile
  rw [shape]
  by_cases empty : groups = []
  · subst empty
    rw [decompileChars_written writes domain (by simp) (.inr rfl)]
    rfl
  · rw [if_neg empty] at writes
    have nonempty : ∀ conditions ∈ groups.map (·.conditions), conditions ≠ [] := by
      intro conditions member
      obtain ⟨group, -, rfl⟩ := List.mem_map.mp member
      exact group.nonempty
    rw [decompileChars_written writes domain (by simpa using empty) (.inl nonempty),
      List.map_map]
    exact congrArg _ (assemble_groups domain empty)

theorem decompile_of_compile {groups : List Group} {domain expression : String}
    (compiled : compile groups domain = .ok expression)
    (tame : ∀ group ∈ groups, ∀ c ∈ group.conditions, Tame c) :
    decompile expression = .ok ⟨domain, Group.canonical (groups.map readBackGroup), []⟩ :=
  decompile_of_coherent compiled fun group inGroups c listed =>
    (tame group inGroups c listed).coherent

/-- A compiled expression decompiles to its host and its groups in canonical form, if no address of
a set of addresses carries a parenthesis or is a keyword. -/
theorem decompile_compile {groups : List Group} {domain expression : String}
    (compiled : compile groups domain = .ok expression)
    (tame : ∀ group ∈ groups, ∀ c ∈ group.conditions, Tame c) :
    ∃ decompiled, decompile expression = .ok decompiled ∧ decompiled.host = domain ∧
      decompiled.skipped = [] ∧
      decompiled.groups.map (·.conditions) = readBackGroups groups :=
  ⟨_, decompile_of_compile compiled tame, rfl, rfl, conditions_canonical groups⟩

/-- An address, and in a second group a value that looks like the end of a group. -/
def sampleGroups : List Group :=
  [⟨[.of .sourceAddress .within (.many ["10.0.0.1"])], by simp⟩,
    ⟨[.of (.generic "referer") .contains (.one "\") or (")], by simp⟩]

/-- The expression of the sample groups. -/
def sampleExpression : String :=
  "(ip.src in \x7b10.0.0.1\x7d and http.host eq \"a.b\") or " ++
    "(http.referer contains \"\\\") or (\" and http.host eq \"a.b\")"

theorem tame_sampleGroups : ∀ group ∈ sampleGroups, ∀ c ∈ group.conditions, Tame c := by
  simp only [sampleGroups, List.forall_mem_cons, List.not_mem_nil, false_imp_iff, implies_true,
    and_true]
  constructor
  · intro _ item listed
    obtain rfl : item = "10.0.0.1" := List.mem_singleton.mp listed
    exact ⟨by decide +kernel, by decide +kernel, by decide +kernel, by decide +kernel⟩
  · intro field
    exact absurd field (by decide)

theorem decompile_compile_sample :
    compile sampleGroups "a.b" = .ok sampleExpression ∧
      ∃ decompiled, decompile sampleExpression = .ok decompiled ∧ decompiled.host = "a.b" ∧
        decompiled.skipped = [] ∧
        decompiled.groups.map (·.conditions) = readBackGroups sampleGroups := by
  have compiled : compile sampleGroups "a.b" = .ok sampleExpression := by decide +kernel
  exact ⟨compiled, decompile_compile compiled tame_sampleGroups⟩

end Expression

end EdgePolicy
