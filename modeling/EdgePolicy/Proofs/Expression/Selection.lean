import EdgePolicy.Proofs.Expression.Recognition

/-
Which shape reads a written clause.

The shapes are tried in one order, so a clause must be refused by every shape before the one it was
written for.  A shape refuses every text that does not begin with one of its letters
(`shape_of_initial`); what is left is told apart by the path or by the word behind it.
`Writes.condition?` and `Writes.host?` say what reading a written clause gives.
-/

set_option autoImplicit false
set_option relaxedAutoImplicit false

namespace EdgePolicy.Expression

open Text (expect? trimChars isBlank)

/-- Every shape with the letters that its clauses may begin with. -/
def initials : List (Shape × List Char) :=
  [(headerNotContains?, ['n']), (headerAny?, ['a']), (headerAllNe?, ['a']),
    (extensionNotIn?, ['n', 'h']), (extensionIn?, ['n', 'h']), (extensionCompare?, ['h']),
    (notContains?, ['n']), (wildcard?, ['h']), (compare?, ['h']), (startsWith?, ['s']),
    (endsWith?, ['e']), (addressIn?, ['i']), (countryIn?, ['n', 'i']), (knownBot?, ['n', 'c']),
    (botCategoryIn?, ['n', 'c']), (botCategoryCompare?, ['c'])]

private theorem shapes_eq : shapes = initials.map Prod.fst := rfl

private theorem expect?_of_initial {start : List Char} {initial c : Char}
    (begins : start.head? = some initial) (other : c ≠ initial) (cs : List Char) :
    expect? start (c :: cs) = none := by
  refine expect?_of_head (fun empty => by simp [empty] at begins) ?_
  rw [begins]
  simpa using Ne.symm other

private theorem word?_of_initial {word : String} {initial c : Char}
    (begins : word.toList.head? = some initial) (other : c ≠ initial) (cs : List Char) :
    word? word (c :: cs) = none :=
  expect?_of_initial begins other cs

private theorem quotedMembership?_of_initial {field : Field} {path : List Char} {initial c : Char}
    (begins : path.head? = some initial) (other : c ∉ ['n', initial]) (cs : List Char) :
    quotedMembership? field path (c :: cs) = none := by
  simp only [List.mem_cons, List.not_mem_nil, or_false, not_or] at other
  have plain : negation (c :: cs) = (false, c :: cs) := negation_of_head (by simpa using other.1)
  unfold quotedMembership?
  simp only [plain, expect?_of_initial begins other.2, Option.bind_eq_bind, Option.bind_none]

private theorem quotedEquality?_of_initial {field : Field} {path : List Char} {initial c : Char}
    (begins : path.head? = some initial) (other : c ≠ initial) (cs : List Char) :
    quotedEquality? field path (c :: cs) = none := by
  unfold quotedEquality?
  simp only [expect?_of_initial begins other, Option.bind_eq_bind, Option.bind_none]

private theorem function?_of_initial {operator : Operator} {initial c : Char}
    (begins : operator.token.toList.head? = some initial) (other : c ≠ initial) (cs : List Char) :
    function? operator (c :: cs) = none := by
  unfold function?
  simp only [word?_of_initial begins other, Option.bind_eq_bind, Option.bind_none]

/-- A shape refuses a text that begins with none of its letters. -/
theorem shape_of_initial (entry : Shape × List Char) (listed : entry ∈ initials) {c : Char}
    (other : c ∉ entry.2) (cs : List Char) : entry.1 (c :: cs) = none := by
  simp only [initials, List.mem_cons, List.not_mem_nil, or_false] at listed
  rcases listed with rfl | rfl | rfl | rfl | rfl | rfl | rfl | rfl | rfl | rfl | rfl | rfl | rfl |
    rfl | rfl | rfl
  · have notN : c ≠ 'n' := by simpa using other
    simp only [headerNotContains?, word?_of_initial not_head
      notN, Option.bind_eq_bind, Option.bind_none]
  · have notA : c ≠ 'a' := by simpa using other
    simp only [headerAny?, word?_of_initial anyOpen_head
      notA, Option.bind_eq_bind, Option.bind_none]
  · have notA : c ≠ 'a' := by simpa using other
    simp only [headerAllNe?, word?_of_initial allOpen_head
      notA, Option.bind_eq_bind, Option.bind_none]
  · have refused : quotedMembership? .fileExtension extensionPath (c :: cs) = none :=
      quotedMembership?_of_initial extensionPath_head other cs
    simp only [extensionNotIn?, refused, Option.bind_none]
  · have refused : quotedMembership? .fileExtension extensionPath (c :: cs) = none :=
      quotedMembership?_of_initial extensionPath_head other cs
    simp only [extensionIn?, refused, Option.bind_none]
  · exact quotedEquality?_of_initial extensionPath_head
      (by simpa using other) cs
  · have notN : c ≠ 'n' := by simpa using other
    simp only [notContains?, word?_of_initial not_head
      notN, Option.bind_eq_bind, Option.bind_none]
  · simp only [wildcard?, httpField?_of_initial (by simpa using other : c ≠ 'h'),
      Option.bind_eq_bind, Option.bind_none]
  · simp only [compare?, httpField?_of_initial (by simpa using other : c ≠ 'h'),
      Option.bind_eq_bind, Option.bind_none]
  · exact function?_of_initial startsWith_head
      (by simpa using other) cs
  · exact function?_of_initial endsWith_head
      (by simpa using other) cs
  · simp only [addressIn?, expect?_of_initial addressPath_head
      (by simpa using other : c ≠ 'i'), Option.bind_eq_bind, Option.bind_none]
  · exact quotedMembership?_of_initial countryPath_head other cs
  · simp only [List.mem_cons, List.not_mem_nil, or_false, not_or] at other
    have plain : negation (c :: cs) = (false, c :: cs) := negation_of_head (by simpa using other.1)
    simp only [knownBot?, plain, expect?_of_initial
      knownBotPath_head other.2, Option.bind_eq_bind,
      Option.bind_none]
  · exact quotedMembership?_of_initial botCategoryPath_head
      other cs
  · exact quotedEquality?_of_initial botCategoryPath_head
      (by simpa using other) cs

/-- The shapes whose clauses may begin with a letter. -/
def candidates (c : Char) : List Shape :=
  (initials.filter fun entry => c ∈ entry.2).map Prod.fst

private theorem firstMatch_filter {entries : List (Shape × List Char)}
    {keep : Shape × List Char → Bool} {cs : List Char}
    (refused : ∀ entry ∈ entries, keep entry = false → entry.1 cs = none) :
    firstMatch (entries.map Prod.fst) cs = firstMatch ((entries.filter keep).map Prod.fst) cs := by
  induction entries with
  | nil => rfl
  | cons entry entries ih =>
    have rest := ih fun other member => refused other (List.mem_cons_of_mem entry member)
    unfold firstMatch at rest ⊢
    cases kept : keep entry with
    | true => simp only [List.filter_cons_of_pos kept, List.map_cons, List.findSome?_cons, rest]
    | false =>
      have first := refused entry List.mem_cons_self kept
      simp only [List.filter_cons_of_neg (by simpa using kept : ¬ keep entry = true),
        List.map_cons, List.findSome?_cons, first, rest]

private theorem firstMatch_shapes (c : Char) (cs : List Char) :
    firstMatch shapes (c :: cs) = firstMatch (candidates c) (c :: cs) := by
  rw [shapes_eq]
  refine firstMatch_filter fun entry listed dropped => shape_of_initial entry listed ?_ cs
  simpa using dropped

private theorem firstMatch_of_initial {c : Char} {cs : List Char} (begins : cs.head? = some c) :
    firstMatch shapes cs = firstMatch (candidates c) cs := by
  cases cs with
  | nil => simp at begins
  | cons d ds =>
    obtain rfl : d = c := by simpa using begins
    exact firstMatch_shapes d ds

private theorem firstMatch_not (cs : List Char) :
    firstMatch shapes ("not ".toList ++ cs) =
      firstMatch (candidates 'n') ("not ".toList ++ cs) := by
  apply firstMatch_of_initial
  rw [notBlank_letters]
  rfl

private theorem firstMatch_none {shape : Shape} {others : List Shape} {cs : List Char}
    (refused : shape cs = none) : firstMatch (shape :: others) cs = firstMatch others cs := by
  unfold firstMatch
  rw [List.findSome?_cons, refused]

private theorem firstMatch_some {shape : Shape} {others : List Shape} {cs : List Char}
    {c : Condition} (reads : shape cs = some c) : firstMatch (shape :: others) cs = some c := by
  unfold firstMatch
  rw [List.findSome?_cons, reads]

private theorem firstMatch_extensions {others : List Shape} {cs : List Char}
    (refused : quotedMembership? .fileExtension extensionPath cs = none) :
    firstMatch (extensionNotIn? :: extensionIn? :: others) cs = firstMatch others cs := by
  have notIn : extensionNotIn? cs = none := by rw [extensionNotIn?, refused, Option.bind_none]
  have within : extensionIn? cs = none := by rw [extensionIn?, refused, Option.bind_none]
  rw [firstMatch_none notIn, firstMatch_none within]

private theorem candidates_a : candidates 'a' = [headerAny?, headerAllNe?] := rfl

private theorem candidates_n : candidates 'n' = [headerNotContains?, extensionNotIn?, extensionIn?,
    notContains?, countryIn?, knownBot?, botCategoryIn?] := rfl

private theorem candidates_h : candidates 'h' = [extensionNotIn?, extensionIn?, extensionCompare?,
    wildcard?, compare?] := rfl

private theorem candidates_i : candidates 'i' = [addressIn?, countryIn?] := rfl

private theorem candidates_c : candidates 'c' =
    [knownBot?, botCategoryIn?, botCategoryCompare?] := rfl

private theorem candidates_s : candidates 's' = [startsWith?] := rfl

private theorem candidates_e : candidates 'e' = [endsWith?] := rfl

section ReadBack

variable {c : Condition} {path : List Char} {value : String}

private theorem readBack_header {name : String} (field : c.field = .header)
    (named : c.name = some name) (operand : c.operand = .one value)
    (single : c.operator.takesSet = false) :
    Condition.onHeader name c.operator value = c.readBack := by
  simp [Condition.onHeader, Condition.of, Condition.readBack, Operand.canonical, Operand.readBack,
    Field.readBack, field, named, operand, single]

theorem HttpField.plain {field : Field} (http : HttpField field path) :
    field ≠ .header ∧ field ≠ .knownBot := by
  cases http <;> exact ⟨by simp, by simp⟩

theorem QuotedField.plain {field : Field} {single : Bool} (quoted : QuotedField field path single) :
    field ≠ .header ∧ field ≠ .knownBot ∧ field.readBack = field := by
  cases quoted <;> exact ⟨by decide, by decide, rfl⟩

private theorem operand_readBack {field : Field} (notBot : field ≠ .knownBot) {operator : Operator}
    (single : operator.takesSet = false) (operand : Operand) :
    operand.readBack field operator = operand := by
  simp only [Operand.readBack, single, Bool.false_eq_true, if_false]
  split
  · exact absurd rfl notBot
  · rfl

theorem readBack_single (notHeader : c.field ≠ .header) (notBot : c.field ≠ .knownBot)
    (notBot_read : c.field.readBack ≠ .knownBot) (operand : c.operand = .one value)
    (single : c.operator.takesSet = false) :
    Condition.of c.field.readBack c.operator (.one value) = c.readBack := by
  have kept := operand_readBack notBot single (.one value)
  simp only [Condition.of, Condition.readBack, kept, operand, Operand.canonical, single,
    notBot_read, notHeader, Bool.false_eq_true, if_false]

private theorem readBack_http (http : HttpField c.field path) (operand : c.operand = .one value)
    (single : c.operator.takesSet = false) :
    Condition.of c.field.readBack c.operator (.one value) = c.readBack :=
  readBack_single http.plain.1 http.plain.2
    (http.readBack_eq ▸ fieldOfPath_ne_knownBot (String.ofList path)) operand single

private theorem readBack_quoted {single : Bool} (quoted : QuotedField c.field path single)
    (operand : c.operand = .one value) (alone : c.operator.takesSet = false) :
    Condition.of c.field c.operator (.one value) = c.readBack := by
  obtain ⟨notHeader, notBot, same⟩ := quoted.plain
  have read := readBack_single notHeader notBot (same.symm ▸ notBot) operand alone
  rwa [same] at read

private theorem readBack_set (notHeader : c.field ≠ .header) (same : c.field.readBack = c.field)
    (set : c.operator.takesSet = true) :
    Condition.of c.field c.operator (.many c.operand.items) = c.readBack := by
  simp only [Condition.of, Condition.readBack, Operand.readBack, Operand.canonical, set, same,
    notHeader, if_true, if_false]

private theorem readBack_knownBot {flag : Bool} (field : c.field = .knownBot)
    (under : c.operator = .eq)
    (operand : c.operand = .flag flag ∨ c.operand = .one (if flag then "true" else "false")) :
    Condition.of .knownBot .eq (.flag flag) = c.readBack := by
  rcases operand with held | held
  · simp [Condition.of, Condition.readBack, Operand.readBack, Operand.canonical, Field.readBack,
      Operator.takesSet, field, under, held]
  · cases flag <;>
      simp [Condition.of, Condition.readBack, Operand.readBack, Operand.canonical, Field.readBack,
        Operator.takesSet, field, under, held]

end ReadBack

private theorem other_than_in : ∀ operator ∈ [Operator.eq, .ne, .contains, .wildcard],
    operator.token.toList ∈ clauseWords ∧ "in".toList ≠ operator.token.toList := by
  intro operator member
  have listed : ∀ operator ∈ [Operator.eq, .ne, .contains, .wildcard],
      operator ∈ clauseOperators ∧ Operator.within ≠ operator := by decide
  exact ⟨token_listed operator (listed operator member).1,
    token_ne .within (listed operator member).2⟩

theorem extensionPath_eq : extensionPath = httpPath "request.uri.path.extension".toList := by
  rw [extensionPath_letters, requestExtension_letters]
  rfl

private theorem HttpField.readBack_extension {field : Field} {path : List Char}
    (http : HttpField field path) (same : httpPath path = extensionPath) :
    field.readBack = .fileExtension := by
  have path_eq : path = "request.uri.path.extension".toList := by
    rw [extensionPath_eq, ← httpPath_eq, ← httpPath_eq] at same
    exact List.append_cancel_left same
  rw [← http.readBack_eq, path_eq, String.ofList_toList]
  decide

section Selected

variable {c : Condition} {operator : Operator} {path : List Char} {value : String}

private theorem membership_positive (path set : List Char) :
    membership false path set = comparison path "in".toList set := by
  simp only [membership, Bool.false_eq_true, if_false, List.nil_append]

private theorem head?_comparison {d : Char} (begins : path.head? = some d)
    (middle value : List Char) :
    (comparison path middle value).head? = some d := by
  rw [comparison_eq, List.head?_append, begins, Option.some_or]

private theorem extensionCompare?_comparison (http : HttpField c.field path)
    (operand : c.operand = .one value)
    (form : c.operator = .eq ∨ c.operator = .ne ∨ c.operator = .contains) :
    let cs := comparison (httpPath path) c.operator.token.toList (quoted value.toList)
    extensionCompare? cs = none ∨ extensionCompare? cs = some c.readBack := by
  have extension := QuotedField.fileExtension.isPath
  by_cases same : httpPath path = extensionPath
  · have read := http.readBack_extension same
    have single : c.operator.takesSet = false := by rcases form with h | h | h <;> rw [h] <;> rfl
    rw [← readBack_http http operand single, read, same]
    rcases form with eq | ne | contains
    · exact .inr (quotedEquality?_written (.inl eq) extensionPath value)
    · exact .inr (quotedEquality?_written (.inr ne) extensionPath value)
    · rw [contains]
      have different : ∀ operator ∈ [Operator.eq, Operator.ne], operator ≠ .contains := by decide
      exact .inl (quotedEquality?_otherWord extension extension
        (token_listed .contains (by decide)) fun operator member =>
          token_ne operator (different operator member))
  · exact .inl (quotedEquality?_otherPath http.isPath extension same)

private theorem firstMatch_compare (http : HttpField c.field path)
    (operand : c.operand = .one value)
    (form : c.operator = .eq ∨ c.operator = .ne ∨ c.operator = .contains) :
    firstMatch shapes (comparison (httpPath path) c.operator.token.toList (quoted value.toList)) =
      some c.readBack := by
  obtain ⟨listed, notIn⟩ := other_than_in c.operator (by rcases form with h | h | h <;> simp [h])
  have single : c.operator.takesSet = false := by rcases form with h | h | h <;> rw [h] <;> rfl
  have notSet : quotedMembership? .fileExtension extensionPath
      (comparison (httpPath path) c.operator.token.toList (quoted value.toList)) = none :=
    quotedMembership?_plain_otherWord http.isPath QuotedField.fileExtension.isPath listed notIn
  have different : Operator.wildcard ≠ c.operator := by
    rcases form with h | h | h <;> rw [h] <;> decide
  have notWildcard : wildcard?
      (comparison (httpPath path) c.operator.token.toList (quoted value.toList)) = none :=
    wildcard?_other http listed (token_ne .wildcard different)
  have compared := compare?_written http form value
  rw [readBack_http http operand single] at compared
  rw [firstMatch_of_initial (head?_comparison rfl _ _ : _ = some 'h'), candidates_h,
    firstMatch_extensions notSet]
  rcases extensionCompare?_comparison http operand form with refused | matched
  · rw [firstMatch_none refused, firstMatch_none notWildcard, firstMatch_some compared]
  · rw [firstMatch_some matched]

private theorem firstMatch_wildcard (http : HttpField c.field path)
    (operand : c.operand = .one value) (under : c.operator = .wildcard)
    (noQuote : '"' ∉ value.toList) :
    firstMatch shapes
        (comparison (httpPath path) "wildcard".toList ('r' :: '"' :: value.toList ++ ['"'])) =
      some c.readBack := by
  have extension := QuotedField.fileExtension.isPath
  obtain ⟨listed, notIn⟩ := other_than_in .wildcard (by decide)
  have notSet : quotedMembership? .fileExtension extensionPath
      (comparison (httpPath path) "wildcard".toList ('r' :: '"' :: value.toList ++ ['"'])) = none :=
    quotedMembership?_plain_otherWord http.isPath extension listed notIn
  have different : ∀ operator ∈ [Operator.eq, Operator.ne], operator ≠ .wildcard := by decide
  have notEqual : extensionCompare?
      (comparison (httpPath path) "wildcard".toList ('r' :: '"' :: value.toList ++ ['"'])) = none :=
    quotedEquality?_otherWord http.isPath extension listed
      fun operator member => token_ne operator (different operator member)
  have read := wildcard?_written http noQuote
  rw [← under, readBack_http http operand (by rw [under]; rfl)] at read
  rw [firstMatch_of_initial (head?_comparison rfl _ _ : _ = some 'h'), candidates_h,
    firstMatch_extensions notSet, firstMatch_none notEqual, firstMatch_some read]

private theorem firstMatch_notContains (http : HttpField c.field path)
    (operand : c.operand = .one value) (under : c.operator = .notContains) :
    firstMatch shapes
        ("not ".toList ++ comparison (httpPath path) "contains".toList (quoted value.toList)) =
      some c.readBack := by
  have notHeader : headerNotContains?
      ("not ".toList ++ comparison (httpPath path) "contains".toList (quoted value.toList)) =
        none :=
    headerNotContains?_other (beginsSolid_comparison http.isPath) (by simp [comparison, httpPath])
  obtain ⟨listed, notIn⟩ := other_than_in .contains (by decide)
  have notSet : quotedMembership? .fileExtension extensionPath
      ("not ".toList ++ comparison (httpPath path) "contains".toList (quoted value.toList)) =
        none :=
    quotedMembership?_not_otherWord http.isPath QuotedField.fileExtension.isPath listed notIn
  have read := notContains?_written http value
  rw [← under, readBack_http http operand (by rw [under]; rfl)] at read
  rw [firstMatch_not, candidates_n, firstMatch_none notHeader, firstMatch_extensions notSet,
    firstMatch_some read]

private theorem firstMatch_function (http : HttpField c.field path)
    (operand : c.operand = .one value) (form : c.operator = .startsWith ∨ c.operator = .endsWith) :
    firstMatch shapes (functionClause c.operator.token (httpPath path) (quoted value.toList)) =
      some c.readBack := by
  have single : c.operator.takesSet = false := by rcases form with h | h <;> rw [h] <;> rfl
  have read := function?_written http c.operator value
  rw [readBack_http http operand single] at read
  have begins : ∀ {name : String} {initial : Char}, name.toList.head? = some initial →
      (functionClause name (httpPath path) (quoted value.toList)).head? = some initial := by
    intro name initial head
    cases letters : name.toList with
    | nil => simp [letters] at head
    | cons d ds => simpa [functionClause, letters] using head
  rcases form with under | under
  · rw [under] at read ⊢
    rw [firstMatch_of_initial (begins startsWith_head), candidates_s]
    exact firstMatch_some read
  · rw [under] at read ⊢
    rw [firstMatch_of_initial (begins endsWith_head), candidates_e]
    exact firstMatch_some read

private theorem notContains?_other {cs : List Char} (solid : BeginsSolid cs)
    (other : cs.head? ≠ some 'h') : notContains? ("not ".toList ++ cs) = none := by
  have refused : httpField? cs = none := by
    obtain ⟨d, ds, rfl, -⟩ := solid
    exact httpField?_of_initial (by simpa using other) ds
  unfold notContains?
  rw [Option.bind_eq_bind, ← Option.bind_assoc, gaps?_of_not solid]
  simp only [Option.bind_some, Option.bind_eq_bind, refused, Option.bind_none]

private theorem headerNotContains?_comparison (isPath : IsPath path) (middle value : List Char) :
    headerNotContains? ("not ".toList ++ comparison path middle value) = none := by
  refine headerNotContains?_other (beginsSolid_comparison isPath) ?_
  obtain ⟨d, ds, rfl, initial⟩ := isPath.begins
  have other : ∀ d ∈ ['c', 'h', 'i'], d ≠ 'a' := by decide
  rw [comparison_eq]
  simpa using other d initial

private theorem quotedMembership?_readBack {single negated : Bool}
    (field : QuotedField c.field path single)
    (under : c.operator = if negated then .notWithin else .within)
    (nonempty : c.operand.items ≠ []) :
    quotedMembership? c.field path
        ((if negated then "not ".toList else []) ++
          comparison path "in".toList (quotedSet c.operand.items)) =
      some c.readBack := by
  have set : c.operator.takesSet = true := by rw [under]; cases negated <;> rfl
  have read : quotedMembership? c.field path (membership negated path (quotedSet c.operand.items)) =
      _ := quotedMembership?_written field.isPath nonempty negated
  rwa [← under, readBack_set field.plain.1 field.plain.2.2 set] at read

private theorem firstMatch_extensionSet {negated : Bool} (field : c.field = .fileExtension)
    (under : c.operator = if negated then .notWithin else .within)
    (nonempty : c.operand.items ≠ []) :
    firstMatch shapes (membership negated extensionPath (quotedSet c.operand.items)) =
      some c.readBack := by
  have isPath := QuotedField.fileExtension.isPath
  have quoted : QuotedField c.field extensionPath true := field ▸ QuotedField.fileExtension
  have read := quotedMembership?_readBack quoted under nonempty
  have operator_eq : c.readBack.operator = if negated then .notWithin else .within := under
  rw [field] at read
  unfold membership
  cases negated with
  | false =>
    simp only [Bool.false_eq_true, if_false, List.nil_append] at read operator_eq ⊢
    have notIn : extensionNotIn? (comparison extensionPath "in".toList
        (quotedSet c.operand.items)) = none := by
      rw [extensionNotIn?, read, Option.bind_some, Expression.under, operator_eq]
      rfl
    have within : extensionIn? (comparison extensionPath "in".toList
        (quotedSet c.operand.items)) = some c.readBack := by
      rw [extensionIn?, read, Option.bind_some, Expression.under, operator_eq, if_pos rfl]
    rw [firstMatch_of_initial (head?_comparison extensionPath_head _ _), candidates_h,
      firstMatch_none notIn, firstMatch_some within]
  | true =>
    simp only [if_true] at read operator_eq ⊢
    have notIn : extensionNotIn? ("not ".toList ++ comparison extensionPath "in".toList
        (quotedSet c.operand.items)) = some c.readBack := by
      rw [extensionNotIn?, read, Option.bind_some, Expression.under, operator_eq, if_pos rfl]
    rw [firstMatch_not, candidates_n, firstMatch_none (headerNotContains?_comparison isPath _ _),
      firstMatch_some notIn]

private theorem firstMatch_countrySet {negated : Bool} (field : c.field = .sourceCountry)
    (under : c.operator = if negated then .notWithin else .within)
    (nonempty : c.operand.items ≠ []) :
    firstMatch shapes (membership negated countryPath (quotedSet c.operand.items)) =
      some c.readBack := by
  have isPath := QuotedField.sourceCountry.isPath
  have quoted : QuotedField c.field countryPath false := field ▸ QuotedField.sourceCountry
  have begins : ∀ value, (comparison countryPath "in".toList value).head? = some 'i' :=
    head?_comparison countryPath_head _
  have read : countryIn? _ = some c.readBack :=
    field ▸ quotedMembership?_readBack quoted under nonempty
  unfold membership
  cases negated with
  | false =>
    simp only [Bool.false_eq_true, if_false, List.nil_append] at read ⊢
    have notAddress : addressIn?
        (comparison countryPath "in".toList (quotedSet c.operand.items)) = none :=
      addressIn?_otherPath isPath countryPath_ne_addressPath
    rw [firstMatch_of_initial (begins _), candidates_i, firstMatch_none notAddress,
      firstMatch_some read]
  | true =>
    simp only [if_true] at read ⊢
    have notExtension : quotedMembership? .fileExtension extensionPath
        ("not ".toList ++ comparison countryPath "in".toList (quotedSet c.operand.items)) = none :=
      quotedMembership?_not_otherPath isPath QuotedField.fileExtension.isPath
        (ne_of_head countryPath_head extensionPath_head (by decide))
    have notHttp : notContains?
        ("not ".toList ++ comparison countryPath "in".toList (quotedSet c.operand.items)) = none :=
      notContains?_other (beginsSolid_comparison isPath) (by rw [begins]; decide)
    rw [firstMatch_not, candidates_n, firstMatch_none (headerNotContains?_comparison isPath _ _),
      firstMatch_extensions notExtension, firstMatch_none notHttp, firstMatch_some read]

private theorem firstMatch_categorySet {negated : Bool} (field : c.field = .verifiedBotCategory)
    (under : c.operator = if negated then .notWithin else .within)
    (nonempty : c.operand.items ≠ []) :
    firstMatch shapes (membership negated botCategoryPath (quotedSet c.operand.items)) =
      some c.readBack := by
  have isPath := QuotedField.verifiedBotCategory.isPath
  have quoted : QuotedField c.field botCategoryPath true := field ▸ QuotedField.verifiedBotCategory
  have begins : ∀ value, (comparison botCategoryPath "in".toList value).head? = some 'c' :=
    head?_comparison botCategoryPath_head _
  have read : botCategoryIn? _ = some c.readBack :=
    field ▸ quotedMembership?_readBack quoted under nonempty
  have notBot := knownBot?_comparison isPath negated "in".toList (quotedSet c.operand.items)
  unfold membership
  cases negated with
  | false =>
    simp only [Bool.false_eq_true, if_false, List.nil_append] at read notBot ⊢
    rw [firstMatch_of_initial (begins _), candidates_c, firstMatch_none notBot,
      firstMatch_some read]
  | true =>
    simp only [if_true] at read notBot ⊢
    have notExtension : quotedMembership? .fileExtension extensionPath
        ("not ".toList ++ comparison botCategoryPath "in".toList (quotedSet c.operand.items)) =
        none :=
      quotedMembership?_not_otherPath isPath QuotedField.fileExtension.isPath
        (ne_of_head botCategoryPath_head extensionPath_head (by decide))
    have notHttp : notContains?
        ("not ".toList ++ comparison botCategoryPath "in".toList (quotedSet c.operand.items)) =
        none :=
      notContains?_other (beginsSolid_comparison isPath) (by rw [begins]; decide)
    have notCountry : countryIn?
        ("not ".toList ++ comparison botCategoryPath "in".toList (quotedSet c.operand.items)) =
        none :=
      quotedMembership?_not_otherPath isPath QuotedField.sourceCountry.isPath
        (ne_of_head botCategoryPath_head countryPath_head (by decide))
    rw [firstMatch_not, candidates_n, firstMatch_none (headerNotContains?_comparison isPath _ _),
      firstMatch_extensions notExtension, firstMatch_none notHttp, firstMatch_none notCountry,
      firstMatch_none notBot, firstMatch_some read]

private theorem firstMatch_equality (field : QuotedField c.field path true)
    (operand : c.operand = .one value) (form : c.operator = .eq ∨ c.operator = .ne) :
    firstMatch shapes (comparison path c.operator.token.toList (quoted value.toList)) =
      some c.readBack := by
  have isPath := field.isPath
  have single : c.operator.takesSet = false := by rcases form with h | h <;> rw [h] <;> rfl
  have read : quotedEquality? c.field path
      (comparison path c.operator.token.toList (quoted value.toList)) = some c.readBack := by
    rw [quotedEquality?_written form, readBack_quoted field operand single]
  obtain ⟨listed, notIn⟩ := other_than_in c.operator (by rcases form with h | h <;> simp [h])
  have notSet : ∀ (other : Field) {path' : List Char}, IsPath path' →
      quotedMembership? other path'
        (comparison path c.operator.token.toList (quoted value.toList)) = none :=
    fun other _ isPath' => quotedMembership?_plain_otherWord isPath isPath' listed notIn
  generalize same : c.field = kind at field read
  cases field with
  | fileExtension =>
    rw [firstMatch_of_initial (head?_comparison extensionPath_head _ _), candidates_h,
      firstMatch_extensions (notSet .fileExtension isPath)]
    exact firstMatch_some read
  | verifiedBotCategory =>
    have notBot := knownBot?_comparison isPath false c.operator.token.toList (quoted value.toList)
    simp only [Bool.false_eq_true, if_false, List.nil_append] at notBot
    have notIn : botCategoryIn? _ = none := notSet .verifiedBotCategory isPath
    rw [firstMatch_of_initial (head?_comparison botCategoryPath_head _ _), candidates_c,
      firstMatch_none notBot, firstMatch_none notIn]
    exact firstMatch_some read

private theorem firstMatch_addresses (field : c.field = .sourceAddress)
    (under : c.operator = .within) (nonempty : c.operand.items ≠ [])
    (bare : ∀ item ∈ c.operand.items, isBareToken item = true) :
    firstMatch shapes
        (membership false addressPath (setOf (c.operand.items.map String.toList))) =
      some c.readBack := by
  have read := addressIn?_written nonempty bare
  have same : c.field.readBack = c.field := by rw [field]; rfl
  rw [← field, ← under, readBack_set (by rw [field]; decide) same (by rw [under]; rfl)] at read
  rw [membership_positive] at read ⊢
  rw [firstMatch_of_initial (head?_comparison addressPath_head _ _), candidates_i,
    firstMatch_some read]

private theorem firstMatch_knownBot {flag : Bool} (field : c.field = .knownBot)
    (under : c.operator = .eq)
    (operand : c.operand = .flag flag ∨ c.operand = .one (if flag then "true" else "false")) :
    firstMatch shapes ((if flag then [] else "not ".toList) ++ knownBotPath) = some c.readBack := by
  have read := knownBot?_written flag
  rw [readBack_knownBot field under operand] at read
  cases flag with
  | true =>
    simp only [if_true, List.nil_append] at read ⊢
    rw [firstMatch_of_initial knownBotPath_head, candidates_c, firstMatch_some read]
  | false =>
    simp only [Bool.false_eq_true, if_false] at read ⊢
    have solid := beginsSolid_knownBotPath
    have notHeader : headerNotContains? ("not ".toList ++ knownBotPath) = none :=
      headerNotContains?_other solid (by rw [knownBotPath_head]; decide)
    have notSet : ∀ (field : Field) {path : List Char} {d : Char}, path.head? = some d → d ≠ 'c' →
        quotedMembership? field path ("not ".toList ++ knownBotPath) = none := by
      intro field path d begins other
      have refused : expect? path knownBotPath = none :=
        expect?_of_head (fun empty => by simp [empty] at begins)
          (by rw [begins, knownBotPath_head]; simpa using other)
      unfold quotedMembership?
      simp only [negation_not solid, refused, Option.bind_eq_bind, Option.bind_none]
    have notHttp : notContains? ("not ".toList ++ knownBotPath) = none :=
      notContains?_other solid (by rw [knownBotPath_head]; decide)
    have notCountry : countryIn? ("not ".toList ++ knownBotPath) = none :=
      notSet .sourceCountry countryPath_head (by decide)
    rw [firstMatch_not, candidates_n, firstMatch_none notHeader,
      firstMatch_extensions (notSet .fileExtension extensionPath_head (by decide)),
      firstMatch_none notHttp, firstMatch_none notCountry, firstMatch_some read]

end Selected

private theorem any_begins (rest : List Char) : ("any".toList ++ rest).head? = some 'a' := by
  rw [any_letters]
  rfl

private theorem all_begins (rest : List Char) : ("all".toList ++ rest).head? = some 'a' := by
  rw [all_letters]
  rfl

private theorem firstMatch_header {c : Condition} {name value : String} {lead word : List Char}
    (field : c.field = .header) (named : c.name = some name) (operand : c.operand = .one value)
    (form : HeaderForm c.operator lead word) :
    firstMatch shapes (lead ++ '(' :: headerTest name word value) = some c.readBack := by
  have single : c.operator.takesSet = false := by
    generalize c.operator = operator at form
    cases form <;> rfl
  have read := readBack_header field named operand single
  generalize under : c.operator = operator at form read
  cases form with
  | anyEq =>
    have any := headerAny?_written (.inl rfl : Operator.eq = .eq ∨ _) name value
    rw [read] at any
    rw [firstMatch_of_initial (any_begins _), candidates_a]
    exact firstMatch_some any
  | allNe =>
    have notAny : word? "any(" ("all".toList ++ '(' :: headerTest name "ne".toList value) =
        none := by
      rw [word?, anyOpen_letters, all_letters]
      rfl
    have all := headerAllNe?_written name value
    rw [read] at all
    have refused : headerAny? ("all".toList ++ '(' :: headerTest name "ne".toList value) =
        none := by
      unfold headerAny?
      rw [notAny]
      rfl
    rw [firstMatch_of_initial (all_begins _), candidates_a, firstMatch_none refused,
      firstMatch_some all]
  | anyContains =>
    have any := headerAny?_written (.inr rfl : Operator.contains = .eq ∨ _) name value
    rw [read] at any
    rw [firstMatch_of_initial (any_begins _), candidates_a]
    exact firstMatch_some any
  | notAnyContains =>
    have matched := headerNotContains?_written name value
    rw [read] at matched
    rw [notAny_eq, List.append_assoc, firstMatch_not, candidates_n, firstMatch_some matched]

/-- The shapes read a written clause back. -/
theorem Writes.condition? {c : Condition} {cs : List Char} (writes : Writes c cs) :
    condition? cs = some c.readBack := by
  unfold Expression.condition?
  rw [trimChars_of_ends writes.opens writes.closes]
  cases writes with
  | @header operator name value lead word field named operand under form =>
    subst under
    simpa only [headerTest, List.append_assoc, List.cons_append] using
      firstMatch_header field named operand form
  | compare http operand under form =>
    subst under
    exact firstMatch_compare http operand form
  | notContains http operand under => exact firstMatch_notContains http operand under
  | wildcard http operand under noQuote => exact firstMatch_wildcard http operand under noQuote
  | function http operand under form =>
    subst under
    exact firstMatch_function http operand form
  | @membership negated single path quoted under nonempty =>
    generalize same : c.field = kind at quoted
    cases quoted with
    | fileExtension => exact firstMatch_extensionSet same under nonempty
    | sourceCountry => exact firstMatch_countrySet same under nonempty
    | verifiedBotCategory => exact firstMatch_categorySet same under nonempty
  | equality quoted operand under form =>
    subst under
    exact firstMatch_equality quoted operand form
  | addresses field under nonempty bare => exact firstMatch_addresses field under nonempty bare
  | knownBot field under operand => exact firstMatch_knownBot field under operand

private theorem host?_of_head {cs : List Char} (trimmed : trimChars cs = cs)
    (other : cs.head? ≠ some 'h') : host? cs = none := by
  have refused : word? "http.host" cs = none :=
    expect?_of_head (by rw [httpHost_letters]; decide)
      (fun same => other (same.symm.trans (by rw [httpHost_letters]; rfl)))
  unfold host?
  simp only [trimmed, refused, Option.bind_eq_bind, Option.bind_none]

theorem isPath_host : IsPath "http.host".toList := by
  rw [httpHost_letters]
  exact ⟨by decide, by decide⟩

private theorem host?_comparison {path middle value : List Char} (isPath : IsPath path)
    (different : path ≠ "http.host".toList) (closes : Closes value) :
    host? (comparison path middle value) = none := by
  unfold host?
  rw [trimChars_of_ends (opens_comparison isPath middle value) (closes.comparison path middle)]
  refine bind_expect?_other isPath isPath_host different fun cs gap => ?_
  rw [keyword?_of_gaps gap]
  rfl

private theorem HttpField.ne_host {field : Field} {path : List Char} (http : HttpField field path) :
    httpPath path ≠ "http.host".toList := by
  have split : "http.host".toList = httpPath "host".toList := by
    rw [httpHost_letters, host_letters]
    rfl
  intro same
  rw [split, ← httpPath_eq, ← httpPath_eq] at same
  have path_eq := List.append_cancel_left same
  cases http with
  | fullUri =>
    rw [requestUri_letters, host_letters] at path_eq
    exact absurd path_eq (by decide)
  | generic path valid notHost => exact notHost (String.toList_inj.mp path_eq)

private theorem QuotedField.ne_host {field : Field} {path : List Char} {single : Bool}
    (quoted : QuotedField field path single) : path ≠ "http.host".toList := by
  rw [httpHost_letters]
  cases quoted with
  | fileExtension =>
    rw [extensionPath_letters]
    decide
  | sourceCountry => exact ne_of_head countryPath_head rfl (by decide)
  | verifiedBotCategory => exact ne_of_head botCategoryPath_head rfl (by decide)

private theorem head?_not (cs : List Char) : ("not ".toList ++ cs).head? ≠ some 'h' := by
  rw [notBlank_letters]
  simp

theorem Writes.host? {c : Condition} {cs : List Char} (writes : Writes c cs) : host? cs = none := by
  have trimmed := trimChars_of_ends writes.opens writes.closes
  cases writes with
  | @header operator name value lead word field named operand under form =>
    obtain ⟨d, listed, begins⟩ := form.initial
    have other : ∀ d ∈ ['a', 'n'], d ≠ 'h' := by decide
    refine host?_of_head trimmed ?_
    rw [List.append_assoc, List.head?_append, begins, Option.some_or]
    simpa using other d listed
  | compare http => exact host?_comparison http.isPath http.ne_host (closes_quoted _)
  | notContains => exact host?_of_head trimmed (head?_not _)
  | wildcard http =>
    exact host?_comparison http.isPath http.ne_host ((closes_singleton (by decide)).append_left _)
  | @function operator path value http operand under form =>
    obtain ⟨d, listed, begins⟩ := function_initial form
    have other : ∀ d ∈ ['s', 'e'], d ≠ 'h' := by decide
    refine host?_of_head trimmed ?_
    rw [functionClause, List.append_assoc, List.append_assoc, List.head?_append,
      begins, Option.some_or]
    simpa using other d listed
  | @membership negated single path quoted =>
    cases negated with
    | false =>
      rw [membership_positive]
      exact host?_comparison quoted.isPath quoted.ne_host (closes_setOf _)
    | true => exact host?_of_head trimmed (head?_not _)
  | equality quoted => exact host?_comparison quoted.isPath quoted.ne_host (closes_quoted _)
  | addresses =>
    rw [membership_positive]
    exact host?_comparison isPath_addressPath
      (ne_of_head addressPath_head httpHost_head (by decide)) (closes_setOf _)
  | @knownBot value =>
    cases value with
    | true =>
      exact host?_of_head trimmed (by rw [if_pos rfl, List.nil_append, knownBotPath_head]; simp)
    | false => exact host?_of_head trimmed (head?_not _)

theorem hostClause_eq (domain : String) :
    hostClause domain = comparison "http.host".toList "eq".toList (quoted domain.toList) := by
  have split : "http.host eq ".toList = "http.host".toList ++ ' ' :: "eq".toList ++ [' '] := by
    simp only [hostEq_letters, httpHost_letters, eq_letters]
    rfl
  unfold hostClause
  simp only [split, comparison, List.append_assoc, List.cons_append, List.nil_append]

theorem host?_hostClause (domain : String) : host? (hostClause domain) = some domain := by
  have solid := beginsSolid_quoted domain.toList []
  have read := text?_quoted domain []
  have listed : "eq".toList ∈ clauseWords := token_listed .eq (by decide)
  rw [List.append_nil] at solid read
  rw [hostClause_eq]
  unfold host? word?
  rw [trimChars_of_ends (opens_comparison isPath_host _ _) ((closes_quoted _).comparison _ _)]
  simp only [expect?_comparison, Option.bind_eq_bind, Option.bind_some,
    keyword?_written listed solid, read]
  rfl

end EdgePolicy.Expression
