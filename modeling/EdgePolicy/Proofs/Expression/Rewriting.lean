import EdgePolicy.Expression.Compile
import EdgePolicy.Proofs.Condition.Document
import EdgePolicy.Proofs.Expression.Addresses

/-
An expression that was read can be written back.

The conditions of a decompiled expression are in canonical form, and their sets of addresses hold
together (`IsReadable`).  So what comes back from JSON as it was survives a new partition, and what
the compiler makes of it decompiles to the same groups (`decompile_rewritten`).  The compiler is
narrower than the reader: it refuses a condition on the host, a header without a name, a path with a
point at one end and an operator that is not for file extensions (`Condition.isWritable`,
`rewrite_refused`).  A generic field under a catalogued name does not come back from JSON as it was
(`catalogued_of_path`).
-/

set_option autoImplicit false
set_option relaxedAutoImplicit false

namespace EdgePolicy

/-- The compiler has no objection to the field of a condition: a header is named, a file extension is
compared with values or sets of them, and a generic path is a path of its own and not the host. -/
def Condition.isWritable (c : Condition) : Bool :=
  match c.field with
  | .header => c.name.any (!·.isEmpty)
  | .fileExtension => [Operator.eq, .ne, .within, .notWithin].contains c.operator
  | .generic path => Expression.isFieldPath path && path != "host"
  | _ => true

namespace Expression

open Text (isBlank trimChars)

/-- What holds of a condition that was read from an expression. -/
structure IsReadable (c : Condition) : Prop where
  recognised : Recognised c
  coherent : Coherent c

section Conditions

variable {c : Condition}

private theorem fieldOfPath_readBack (path : String) :
    (fieldOfPath path).readBack = fieldOfPath path := by
  by_cases uri : path = "request.full_uri"
  · simp [fieldOfPath, uri, Field.readBack]
  · by_cases extension : path = "request.uri.path.extension"
    · simp [fieldOfPath, extension, Field.readBack]
    · simp [fieldOfPath, uri, extension, Field.readBack]

private theorem fieldOfPath_ne_header (path : String) : fieldOfPath path ≠ .header := by
  unfold fieldOfPath
  split
  · exact nofun
  · split <;> exact nofun

private theorem takesSet_of_text {operator : Operator}
    (form : operator ∈ [.eq, .ne, .contains, .notContains, .wildcard, .startsWith, .endsWith]) :
    operator.takesSet = false := by
  revert operator
  decide

private theorem operand_text (path value : String) {operator : Operator}
    (single : operator.takesSet = false) :
    (Condition.of (fieldOfPath path) operator (.one value)).operand = .one value := by
  simp [Condition.of, Operand.canonical, single, fieldOfPath_ne_knownBot]

theorem Recognised.readBack (recognised : Recognised c) : c.readBack = c := by
  cases recognised with
  | header name value form =>
    simp only [List.mem_cons, List.not_mem_nil, or_false] at form
    rcases form with rfl | rfl | rfl | rfl <;> rfl
  | text path value form noQuote =>
    have single := takesSet_of_text form
    have notBot := fieldOfPath_ne_knownBot path
    have same := fieldOfPath_readBack path
    have read := readBack_single (fieldOfPath_ne_header path) notBot (same.symm ▸ notBot)
      (operand_text path value single) single
    rw [← read]
    exact congrArg (Condition.of · _ _) same
  | equality value single form =>
    simp only [List.mem_cons, List.not_mem_nil, or_false] at single form
    rcases single with rfl | rfl <;> rcases form with rfl | rfl <;> rfl
  | membership quoted form nonempty =>
    simp only [List.mem_cons, List.not_mem_nil, or_false] at quoted form
    rcases quoted with rfl | rfl | rfl <;> rcases form with rfl | rfl <;> rfl
  | addresses nonempty bare => rfl
  | knownBot value => rfl

private theorem textClause_ok {value : String} (path : List Char) (operand : c.operand = .one value)
    (form : c.operator ∈ [.eq, .ne, .contains, .notContains, .wildcard, .startsWith, .endsWith])
    (noQuote : c.operator = .wildcard → '"' ∉ value.toList) :
    ∃ text, textClause path c = .ok text := by
  have read : scalar c = .ok value := by simp [scalar, operand, Operand.text?]
  unfold textClause
  simp only [read, bind, Except.bind]
  cases under : c.operator with
  | wildcard =>
    exact ⟨_, if_neg (by simpa using noQuote under)⟩
  | within | notWithin => simp [under] at form
  | _ => exact ⟨_, rfl⟩

private theorem header_written_iff {name value : String} (field : c.field = .header)
    (named : c.name = some name) (operand : c.operand = .one value)
    (form : c.operator ∈ [.eq, .ne, .contains, .notContains]) :
    (∃ text, clause c = .ok text) ↔ c.isWritable = true := by
  have read : scalar c = .ok value := by simp [scalar, operand, Operand.text?]
  have writable : c.isWritable = !name.isEmpty := by simp [Condition.isWritable, field, named]
  have written : clause c = headerClause c := by simp only [clause, field]
  rw [written, writable]
  unfold headerClause
  cases empty : name.isEmpty with
  | true => simp [named, empty, bind, Except.bind]
  | false =>
    simp only [named, empty, read, bind, Except.bind, Bool.false_eq_true, if_false]
    cases under : c.operator with
    | eq | ne | contains | notContains => exact iff_of_true ⟨_, rfl⟩ rfl
    | _ => simp [under] at form

private theorem text_written_iff {value : String}
    (known : c.field = .fullUri ∨ c.field = .fileExtension ∨ ∃ path, c.field = .generic path)
    (operand : c.operand = .one value)
    (form : c.operator ∈ [.eq, .ne, .contains, .notContains, .wildcard, .startsWith, .endsWith])
    (noQuote : c.operator = .wildcard → '"' ∉ value.toList) :
    (∃ text, clause c = .ok text) ↔ c.isWritable = true := by
  have written := fun path => textClause_ok path operand form noQuote
  rcases known with field | field | ⟨path, field⟩
  · have direct : clause c = textClause fullUriPath c := by simp only [clause, field]
    have writable : c.isWritable = true := by simp only [Condition.isWritable, field]
    rw [direct, writable]
    exact iff_of_true (written fullUriPath) rfl
  · have read : scalar c = .ok value := by simp [scalar, operand, Operand.text?]
    have direct : clause c = quotedClause extensionPath true c := by simp only [clause, field]
    have writable : c.isWritable = [Operator.eq, .ne, .within, .notWithin].contains c.operator := by
      simp only [Condition.isWritable, field]
    rw [direct, writable]
    unfold quotedClause
    cases under : c.operator with
    | eq | ne => simp [read, bind, Except.bind, pure, Except.pure]
    | within | notWithin => simp [under] at form
    | _ => simp
  · have direct : clause c = genericClause path c := by simp only [clause, field]
    have writable : c.isWritable = (isFieldPath path && path != "host") := by
      simp only [Condition.isWritable, field]
    rw [direct, writable]
    unfold genericClause
    by_cases valid : isFieldPath path = true
    · by_cases host : path = "host"
      · subst host
        simp [valid]
      · simpa [valid, host] using written _
    · simp [valid]

private theorem Recognised.written_iff (recognised : Recognised c) :
    (∃ text, clause c = .ok text) ↔ c.isWritable = true := by
  cases recognised with
  | @header name value operator form =>
    have operand : (Condition.onHeader name operator value).operand = .one value := by
      simp only [List.mem_cons, List.not_mem_nil, or_false] at form
      rcases form with rfl | rfl | rfl | rfl <;> rfl
    exact header_written_iff rfl rfl operand form
  | text path value form noQuote =>
    refine text_written_iff ?_ (operand_text path value (takesSet_of_text form)) form noQuote
    simp only [Condition.of, fieldOfPath]
    split
    · exact .inl rfl
    · split
      · exact .inr (.inl rfl)
      · exact .inr (.inr ⟨path, rfl⟩)
  | equality value single form =>
    simp only [List.mem_cons, List.not_mem_nil, or_false] at single form
    rcases single with rfl | rfl <;> rcases form with rfl | rfl <;>
      simp [clause, quotedClause, Condition.of, Condition.isWritable, scalar, Operand.canonical,
        Operator.takesSet, Operand.text?, bind, Except.bind, pure, Except.pure]
  | membership quoted form nonempty =>
    simp only [List.mem_cons, List.not_mem_nil, or_false] at quoted form
    rcases quoted with rfl | rfl | rfl <;> rcases form with rfl | rfl <;>
      simp [clause, quotedClause, Condition.of, Condition.isWritable, setItems, Operand.canonical,
        Operand.items, nonempty, bind, Except.bind, pure, Except.pure]
  | @addresses items nonempty bare =>
    have found : (items.find? fun item => !isBareToken item) = none := by
      simpa using bare
    simp [clause, addressClause, Condition.of, Condition.isWritable, setItems, Operand.canonical,
      Operand.items, nonempty, found, bind, Except.bind, pure, Except.pure]
  | knownBot value =>
    cases value <;> simp [clause, knownBotClause, Condition.of, Condition.isWritable,
      Operand.canonical]

private theorem single_of_checkClause {raw : List Char} (checked : checkClause raw = .ok ()) :
    ∃ piece, split orWord (trimChars raw) = .ok [piece] := by
  unfold checkClause at checked
  dsimp only at checked
  split at checked
  · exact nomatch checked
  obtain ⟨pieces, cut, checked⟩ := bind_eq_ok.mp checked
  split at checked
  · exact nomatch checked
  · next few =>
    obtain ⟨first, others, rfl⟩ := List.exists_cons_of_ne_nil (split_ne_nil cut)
    obtain rfl : others = [] := by simpa using few
    exact ⟨first, cut⟩

private theorem shape_marked {shape : Shape} (listed : shape ∈ shapes) {d : Char}
    (mark : d = '"' ∨ d = 'r') (cs : List Char) : shape (d :: cs) = none := by
  simp only [shapes, List.mem_cons, List.not_mem_nil, or_false] at listed
  rcases listed with rfl | rfl | rfl | rfl | rfl | rfl | rfl | rfl | rfl | rfl | rfl | rfl | rfl |
    rfl | rfl | rfl <;> rcases mark with rfl | rfl <;> rfl

private theorem beginsBare_of_unmarked {cs : List Char}
    (unmarked : ∀ d rest, d = '"' ∨ d = 'r' → trimChars cs ≠ d :: rest) :
    BeginsBare cs ∧ BeginsBare (trimChars cs) := by
  have notBlank : ∀ d, d = '"' ∨ d = 'r' → isBlank d ≠ true := by
    rintro d (rfl | rfl) <;> decide
  have trimmed : BeginsBare (trimChars cs) := by
    intro d first
    obtain ⟨rest, shape⟩ := List.head?_eq_some_iff.mp first
    rw [← not_or]
    exact fun mark => unmarked d rest mark shape
  refine ⟨fun d first => ?_, trimmed⟩
  obtain ⟨lead, trail, blanks, blanks', whole⟩ := trimChars_eq cs
  rw [whole] at first
  cases lead with
  | cons e lead =>
    obtain rfl := Option.some.inj first
    rw [← not_or]
    exact fun mark => notBlank e mark (blanks e List.mem_cons_self)
  | nil =>
    cases shape : trimChars cs with
    | cons e rest =>
      rw [shape] at first trimmed
      exact trimmed d first
    | nil =>
      rw [shape] at first
      rw [← not_or]
      exact fun mark => notBlank d mark (blanks' d (List.mem_of_head? first))

private theorem beginsBare_of_condition? {text : List Char} (read : condition? text = some c) :
    BeginsBare text ∧ BeginsBare (trimChars text) := by
  obtain ⟨shape, listed, read⟩ := List.exists_of_findSome?_eq_some read
  refine beginsBare_of_unmarked fun d rest mark trimmed => ?_
  rw [trimmed, shape_marked listed mark] at read
  nomatch read

private theorem beginsBare_of_host? {text : List Char} {host : String}
    (read : host? text = some host) :
    BeginsBare text := by
  refine (beginsBare_of_unmarked fun d rest mark trimmed => ?_).1
  unfold host? at read
  rw [trimmed] at read
  rcases mark with rfl | rfl <;> nomatch read

private theorem IsRead.beginsBare {alone : Bool} {host : String} {texts : List (List Char)}
    (read : IsRead alone host texts) (recognised : ∀ text ∈ texts.dropLast, condition? text ≠ none) :
    ∀ text ∈ texts, BeginsBare text := by
  obtain ⟨last, ends, named⟩ := Option.bind_eq_some_iff.mp read.host
  rw [← List.dropLast_append_getLast? last ends]
  refine List.forall_mem_append.mpr ⟨fun text member => ?_, ?_⟩
  · obtain ⟨c, shape⟩ := Option.ne_none_iff_exists'.mp (recognised text member)
    exact (beginsBare_of_condition? shape).1
  · exact List.forall_mem_singleton.mpr (beginsBare_of_host? named)

private theorem isReadable_of_clause {limit : Nat} {text : List Char}
    (read : WasRead limit andWord text) (enclosed : IsEnclosed text)
    (checked : checkClause text = .ok ()) (shape : condition? text = some c) : IsReadable c := by
  obtain ⟨recognised, addresses⟩ := recognised_of_condition? shape
  refine ⟨recognised, ?_⟩
  by_cases field : c.field = .sourceAddress
  · obtain ⟨bare, bare'⟩ := beginsBare_of_condition? shape
    refine coherent_of_read (addresses field) fun keyword listed => ?_
    simp only [separators, List.mem_cons, List.not_mem_nil, or_false] at listed
    rcases listed with rfl | rfl
    · obtain ⟨piece, alone⟩ := single_of_checkClause checked
      obtain ⟨opened, last, outside, run⟩ := enclosed.trimmed
      refine ⟨[], [], List.forall_mem_nil _, List.forall_mem_nil _, ?_⟩
      rw [List.nil_append, List.append_nil]
      exact ((wasRead_of_single alone).enclosed bare' outside run).1
    · obtain ⟨opened, last, outside, run⟩ := enclosed
      obtain ⟨lead, trail, blanks, blanks', whole⟩ := trimChars_eq text
      exact ⟨lead, trail, blanks, blanks', whole ▸ (read.enclosed bare outside run).1⟩
  · exact fun same => absurd same field

end Conditions

section Joins

variable {c : Condition}

theorem Coherent.joined (coherent : Coherent c) (join : Join) : Coherent (c.joined join) := coherent

private theorem readBack_joined (c : Condition) (join : Join) :
    (c.joined join).readBack = c.readBack := rfl

private theorem map_joins {α : Type} {f : Condition → α} (same : ∀ c join, f (c.joined join) = f c)
    (leading : Join) (conditions : List Condition) :
    (Group.joins leading conditions).map f = conditions.map f := by
  cases conditions with
  | nil => rfl
  | cons first rest => simp [Group.joins, same, Function.comp_def]

private theorem map_readBack_canonical {groups : List Group}
    (canonical : ∀ group ∈ groups, ∀ c ∈ group.conditions, c.readBack = c) :
    (Group.canonical groups).map readBackGroup = groups := by
  apply List.ext_getElem?
  intro index
  rw [List.getElem?_map, Group.canonical, List.getElem?_mapIdx, Option.map_map]
  cases found : groups[index]? with
  | none => rfl
  | some group =>
    refine congrArg some (Group.eq_of_conditions ?_)
    have same : group.conditions.map Condition.readBack = group.conditions := by
      rw [List.map_congr_left (canonical group (List.mem_of_getElem? found)), List.map_id']
    exact (map_joins readBack_joined _ group.conditions).trans same

end Joins

section Groups

variable {groups : List Group} {domain : String}

private theorem compileGroup_ok_iff (domain : String) {conditions : List Condition} :
    (∃ text, compileGroup domain conditions = .ok text) ↔
      ∀ c ∈ conditions, ∃ text, clause c = .ok text := by
  rw [← mapM_ok_iff]
  unfold compileGroup
  simp only [bind_eq_ok]
  constructor
  · rintro ⟨_, texts, mapped, -⟩
    exact ⟨texts, mapped⟩
  · rintro ⟨texts, mapped⟩
    exact ⟨_, texts, mapped, rfl⟩

private theorem compile_ok_iff (host : Text.isBlankText domain = false) :
    (∃ expression, compile groups domain = .ok expression) ↔
      ∀ group ∈ groups, ∀ c ∈ group.conditions, ∃ text, clause c = .ok text := by
  have chars : (∃ expression, compile groups domain = .ok expression) ↔
      ∃ cs, compileChars groups domain = .ok cs := by
    simp only [compile_eq_ok]
    exact ⟨fun ⟨_, compiled⟩ => ⟨_, compiled⟩,
      fun ⟨cs, compiled⟩ => ⟨.ofList cs, by rw [compiled, String.toList_ofList]⟩⟩
  rw [chars]
  unfold compileChars
  simp only [host, Bool.false_eq_true, if_false]
  by_cases empty : groups = []
  · subst empty
    exact iff_of_true ⟨_, rfl⟩ nofun
  · have filled : groups.isEmpty = false := by simpa using empty
    simp only [filled, Bool.false_eq_true, if_false, bind_eq_ok]
    rw [← forall₂_congr fun group _ => compileGroup_ok_iff domain]
    rw [← mapM_ok_iff]
    constructor
    · rintro ⟨_, texts, mapped, -⟩
      exact ⟨texts, mapped⟩
    · rintro ⟨texts, mapped⟩
      exact ⟨_, texts, mapped, rfl⟩

end Groups

private theorem recognised_of_lossless {clauses : List (List (List Char))} {host : String}
    (lossless : (assemble (clauses.zipIdx.map (readingOf host))).isLossless = true) :
    ∀ group ∈ clauses, ∀ text ∈ group.dropLast, condition? text ≠ none := by
  rw [Decompiled.isLossless, skipped_assemble, List.isEmpty_iff] at lossless
  intro group inClauses text inGroup unread
  obtain ⟨i, atGroup⟩ := List.getElem?_of_mem inClauses
  obtain ⟨j, atClause⟩ := List.getElem?_of_mem inGroup
  have reported : ⟨i, j, String.ofList (trimChars text)⟩ ∈ clauses.zipIdx.flatMap leftOver :=
    mem_leftOvers.mpr ⟨group, text, atGroup, atClause, unread, rfl⟩
  rw [lossless] at reported
  nomatch reported

/-- The groups of a decompiled expression are groups of readable conditions with canonical joins, if
no clause is left over. -/
theorem groups_of_decompile {expression : String} {decompiled : Decompiled}
    (done : decompile expression = .ok decompiled) (lossless : decompiled.isLossless = true) :
    ∃ groups, decompiled.groups = Group.canonical groups ∧
      ∀ group ∈ groups, ∀ c ∈ group.conditions, IsReadable c := by
  obtain ⟨clauses, cut, -, reads, whole⟩ := decompile_ok done
  rw [whole] at lossless
  refine ⟨(clauses.map recognised).filterMap Group.ofList?, ?_, fun group member c listed => ?_⟩
  · rw [whole]
    exact groups_assemble clauses _
  · obtain ⟨conditions, inLists, made⟩ := List.mem_filterMap.mp member
    obtain ⟨texts, inClauses, rfl⟩ := List.mem_map.mp inLists
    have same : group.conditions = recognised texts := by
      unfold Group.ofList? at made
      split at made
      · rw [← Option.some.inj made]
      · cases made
    rw [same] at listed
    obtain ⟨text, inGroup, shape⟩ := List.mem_filterMap.mp listed
    have inTexts : text ∈ texts := (List.dropLast_sublist texts).subset inGroup
    -- The clause was read in its group, and the group within its parentheses.
    obtain ⟨raws, pieces, cut⟩ := bind_eq_ok.mp cut
    obtain ⟨raw, inRaws, cut⟩ := exists_of_mem_mapM cut inClauses
    obtain ⟨inside, opened, pieces'⟩ := bind_eq_ok.mp cut
    have bare := (reads texts inClauses).beginsBare (recognised_of_lossless lossless texts inClauses)
    have enclosed := (joined_of_piecesFrom isKeyword_andWord (split_ok.mp pieces')).enclosed bare
      (fun _ => wasRead_of_split pieces') (isEnclosed_inside (wasRead_of_split pieces inRaws) opened)
    exact isReadable_of_clause (wasRead_of_split pieces' inTexts) (enclosed text inTexts)
      ((reads texts inClauses).checked text inGroup) shape

/-- The conditions of a decompiled expression come back from JSON, each that is known by its name as
it was.  If all are as they were the compiler writes them, partitioned anew, exactly if it has no
objection to a field, and what it writes decompiles to the host and the groups of the expression,
with nothing left over. -/
theorem decompile_rewritten {expression : String} {decompiled : Decompiled}
    (done : decompile expression = .ok decompiled) (lossless : decompiled.isLossless = true)
    (host : Text.isBlankText decompiled.host = false) :
    ∃ read, Condition.ofText? (Condition.text decompiled.conditions) = some read ∧
      List.Forall₂ (fun c c' => c.IsNamed → c' = c) decompiled.conditions read ∧
      (read = decompiled.conditions →
        ((∃ text, compile (Group.partition read) decompiled.host = .ok text) ↔
          ∀ c ∈ read, c.isWritable = true) ∧
        ∀ text, compile (Group.partition read) decompiled.host = .ok text →
          decompile text = .ok ⟨decompiled.host, decompiled.groups, []⟩) := by
  obtain ⟨groups, canonical, readable⟩ := groups_of_decompile done lossless
  have again : Group.canonical decompiled.groups = decompiled.groups := by
    rw [canonical, Group.canonical_canonical]
  have flat : decompiled.conditions = decompiled.groups.flatMap (·.conditions) := by
    rw [Decompiled.conditions, Group.flatten, again]
  have parted : Group.partition decompiled.conditions = decompiled.groups := by
    rw [Decompiled.conditions, Group.partition_flatten, again]
  -- Neither the compiler nor the scanner looks at the join of a condition.
  have kept : ∀ group ∈ decompiled.groups, ∀ c ∈ group.conditions, Coherent c ∧
      ((∃ text, clause c = .ok text) ↔ c.isWritable = true) := by
    intro group member c listed
    rw [canonical] at member
    obtain ⟨group', member', original, listed', join, rfl⟩ := Group.mem_canonical member listed
    obtain ⟨recognised, coherent⟩ := readable group' member' original listed'
    exact ⟨coherent.joined join, recognised.written_iff⟩
  refine ⟨_, Condition.ofText?_text _, ?_, fun same => ?_⟩
  · rw [List.forall₂_map_right_iff, List.forall₂_same]
    exact fun c _ => Condition.catalogued_eq_iff.mpr
  · rw [same, parted]
    refine ⟨?_, fun text compiled => ?_⟩
    · rw [compile_ok_iff host, flat]
      simp only [List.forall_mem_flatMap]
      exact forall₂_congr fun group member => forall₂_congr fun c listed =>
        (kept group member c listed).2
    · have read := decompile_of_coherent compiled fun group member c listed =>
        (kept group member c listed).1
      have back : decompiled.groups.map readBackGroup = groups := by
        rw [canonical]
        exact map_readBack_canonical fun group member c listed =>
          (readable group member c listed).recognised.readBack
      rw [read, back, ← canonical]

/-- Addresses in odd spacing, one of them a keyword between parentheses of others, and a group with
a path that only the reader spells in full. -/
def spacedExpression : String :=
  "( ip.src  in \x7b  (a and b)  c \x7d  and http.host eq \"a.b\" ) or " ++
    "(not http.request.full_uri contains \"x\" and http.host eq \"a.b\")"

/-- What that expression says. -/
def spacedReading : Decompiled :=
  ⟨"a.b", [⟨[.of .sourceAddress .within (.many ["(a", "and", "b)", "c"])], by simp⟩,
    ⟨[(Condition.of .fullUri .notContains (.one "x")).joined .or], by simp⟩], []⟩

theorem decompile_rewritten_sample :
    (decompile spacedExpression = .ok spacedReading ∧ spacedReading.isLossless = true ∧
      Text.isBlankText spacedReading.host = false) ∧
    Condition.ofText? (Condition.text spacedReading.conditions) = some spacedReading.conditions ∧
    ∃ text, compile (Group.partition spacedReading.conditions) spacedReading.host = .ok text ∧
      decompile text = .ok ⟨spacedReading.host, spacedReading.groups, []⟩ := by
  have done : decompile spacedExpression = .ok spacedReading := by decide +kernel
  have host : Text.isBlankText spacedReading.host = false := by decide
  have conditions : spacedReading.conditions =
      [.of .sourceAddress .within (.many ["(a", "and", "b)", "c"]),
        (Condition.of .fullUri .notContains (.one "x")).joined .or] := rfl
  obtain ⟨read, back, each, rewritten⟩ := decompile_rewritten done rfl host
  obtain rfl : read = spacedReading.conditions := by
    rw [conditions] at each ⊢
    obtain ⟨first, others, kept, behind, rfl⟩ := List.forall₂_cons_left_iff.mp each
    obtain ⟨second, none, kept', ends, rfl⟩ := List.forall₂_cons_left_iff.mp behind
    obtain rfl := List.forall₂_nil_left_iff.mp ends
    rw [kept nofun, kept' nofun]
  obtain ⟨written, again⟩ := rewritten rfl
  obtain ⟨text, compiled⟩ := written.mpr (by decide)
  exact ⟨⟨done, rfl, host⟩, back, text, compiled, again text compiled⟩

def hostExpression : String := "(http.host ne \"x\" and http.host eq \"a.b\")"

/-- Reading is wider than writing: a condition on the host is read and refused by the compiler. -/
theorem rewrite_refused :
    ¬ ∀ expression decompiled, decompile expression = .ok decompiled →
      decompiled.isLossless = true → Text.isBlankText decompiled.host = false →
      ∃ read text, Condition.ofText? (Condition.text decompiled.conditions) = some read ∧
        compile (Group.partition read) decompiled.host = .ok text ∧
        decompile text = .ok ⟨decompiled.host, decompiled.groups, []⟩ := by
  intro always
  have done : decompile hostExpression =
      .ok ⟨"a.b", [⟨[.of (.generic "host") .ne (.one "x")], by simp⟩], []⟩ := by decide +kernel
  obtain ⟨read, text, back, written, -⟩ := always _ _ done rfl (by decide)
  rw [Condition.ofText?_text] at back
  obtain rfl := Option.some.inj back
  have refused : compile (Group.partition [.of (.generic "host") .ne (.one "x")]) "a.b" =
      .error .hostField := by decide +kernel
  exact nomatch refused.symm.trans written

/-- The path of a catalogued name behind `http.` is read as a generic field, and its conditions do
not come back from JSON: the name stands for the catalogued field there. -/
theorem catalogued_of_path {path : String} (listed : path ∈ Field.catalogue) {c : Condition}
    (field : c.field = fieldOfPath path) : c.field = .generic path ∧ c.catalogued ≠ c := by
  have generic : c.field = .generic path := by
    rw [field]
    simp only [Field.catalogue, List.mem_cons, List.not_mem_nil, or_false] at listed
    rcases listed with rfl | rfl | rfl | rfl | rfl | rfl | rfl <;> decide
  refine ⟨generic, fun same => ?_⟩
  exact Condition.catalogued_eq_iff.mp same path generic listed

example :
    decompile "(http.bot_known eq \"true\" and http.host eq \"a.b\")" =
        .ok ⟨"a.b", [⟨[.of (.generic "bot_known") .eq (.one "true")], by simp⟩], []⟩ ∧
      compile [⟨[(Condition.of (.generic "bot_known") .eq (.one "true")).catalogued], by simp⟩]
        "a.b" = .ok "(cf.client.bot and http.host eq \"a.b\")" := by
  decide +kernel

end Expression

end EdgePolicy
