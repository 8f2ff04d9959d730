import EdgePolicy.Proofs.Expression.Reading

/-
Recognising written clauses.

A written clause reads back as its condition in canonical form (`Writes.condition?`), and it is no
host clause (`Writes.host?`).  Most shapes refuse a text by its first letter, so few candidates
are left for each letter (`firstMatch_shapes`); the others differ in the path or in the word behind
the path.
-/

set_option autoImplicit false
set_option relaxedAutoImplicit false

namespace EdgePolicy

/-- A field as an expression knows it: a generic path may be the path of a catalogued field. -/
def Field.readBack : Field → Field
  | .generic path => Expression.fieldOfPath path
  | field => field

/-- An operand as an expression knows it: sets are items, and the known-bot flag is a flag. -/
def Operand.readBack (field : Field) (operator : Operator) (operand : Operand) : Operand :=
  if operator.takesSet then .many operand.items
  else
    match field, operand with
    | .knownBot, .one text => .flag (text == "true")
    | _, operand => operand

def Condition.readBack (c : Condition) : Condition where
  field := c.field.readBack
  name := if c.field = .header then c.name else none
  operator := c.operator
  operand := c.operand.readBack c.field c.operator
  join := .none

namespace Expression

open Text (expect? expect?_append isGap)

section Comparisons

variable {path other middle value : List Char} {field : Field}

theorem comparison_eq (path middle value : List Char) :
    comparison path middle value = path ++ ' ' :: (middle ++ ' ' :: value) := by
  simp [comparison]

theorem beginsSolid_comparison (isPath : IsPath path) :
    BeginsSolid (comparison path middle value) := by
  obtain ⟨c, cs, shape, -⟩ := isPath.begins
  rw [comparison_eq]
  exact beginsSolid_append isPath.solid (shape ▸ List.cons_ne_nil c cs) _

private theorem negation_path (isPath : IsPath path) (rest : List Char) :
    negation (path ++ rest) = (false, path ++ rest) := by
  obtain ⟨c, cs, rfl, initial⟩ := isPath.begins
  have other : ∀ c ∈ ['c', 'h', 'i'], c ≠ 'n' := by decide
  exact negation_of_head (by simpa using other c initial)

private theorem negation_comparison (isPath : IsPath path) (negated : Bool) :
    negation ((if negated then "not ".toList else []) ++ comparison path middle value) =
      (negated, comparison path middle value) := by
  cases negated with
  | false =>
    simp only [Bool.false_eq_true, if_false, List.nil_append, comparison_eq]
    exact negation_path isPath _
  | true => exact negation_not (beginsSolid_comparison isPath)

theorem bind_expect?_other {α : Type} {next : List Char → Option α} (isPath : IsPath path)
    (isPath_other : IsPath other) (different : path ≠ other)
    (gap : ∀ cs, gaps? cs = none → next cs = none) :
    (expect? other (comparison path middle value)).bind next = none := by
  rw [comparison_eq]
  cases met : expect? other (path ++ ' ' :: (middle ++ ' ' :: value)) with
  | none => rfl
  | some after =>
    exact gap after (gaps?_of_expect?_other isPath.solid isPath_other.solid different met)

theorem keyword?_of_gaps {word : String} {cs : List Char} (refused : gaps? cs = none) :
    keyword? word cs = none := by
  simp [keyword?, refused]

private theorem operator?_of_gaps {operators : List Operator} {cs : List Char}
    (refused : gaps? cs = none) :
    operator? operators cs = none := by
  induction operators with
  | nil => rfl
  | cons operator operators ih => simp only [operator?, keyword?_of_gaps refused, ih]

theorem expect?_comparison (path middle value : List Char) :
    expect? path (comparison path middle value) = some (' ' :: (middle ++ ' ' :: value)) := by
  rw [comparison_eq, expect?_append]

end Comparisons

section FixedPaths

variable {path other middle : List Char} {field : Field} {value : List Char}

theorem inWord_mem : "in".toList ∈ clauseWords := token_listed .within (by decide)

private theorem tokens_listed {operators : List Operator}
    (listed : ∀ operator ∈ operators, operator ∈ clauseOperators) :
    ∀ operator ∈ operators, operator.token.toList ∈ clauseWords :=
  fun operator member => token_listed operator (listed operator member)

private theorem beginsSolid_quotedSet (items : List String) (rest : List Char) :
    BeginsSolid (quotedSet items ++ rest) :=
  ⟨'\x7b', _, rfl, by decide⟩

theorem quotedMembership?_written (isPath : IsPath path) {items : List String}
    (nonempty : items ≠ []) (negated : Bool) :
    quotedMembership? field path (membership negated path (quotedSet items)) =
      some (.of field (if negated then .notWithin else .within) (.many items)) := by
  have solid := beginsSolid_quotedSet items []
  have read := quotedSet?_written nonempty []
  rw [List.append_nil] at solid read
  unfold quotedMembership? membership
  simp only [negation_comparison isPath, expect?_comparison, Option.bind_eq_bind, Option.bind_some,
    keyword?_written inWord_mem solid, read]
  rfl

private theorem quotedMembership?_otherPath (isPath : IsPath path) (isPath_other : IsPath other)
    (different : path ≠ other) (negated : Bool) :
    quotedMembership? field other
      ((if negated then "not ".toList else []) ++ comparison path middle value) = none := by
  unfold quotedMembership?
  simp only [negation_comparison isPath, Option.bind_eq_bind]
  refine bind_expect?_other isPath isPath_other different fun cs gap => ?_
  rw [keyword?_of_gaps gap, Option.bind_none]

private theorem quotedMembership?_otherWord (isPath : IsPath path) (isPath_other : IsPath other)
    (listed : middle ∈ clauseWords) (word : "in".toList ≠ middle) (negated : Bool) :
    quotedMembership? field other
      ((if negated then "not ".toList else []) ++ comparison path middle value) = none := by
  by_cases same : path = other
  · subst same
    unfold quotedMembership?
    simp only [negation_comparison isPath, expect?_comparison, Option.bind_eq_bind,
      Option.bind_some, keyword?_other inWord_mem listed word, Option.bind_none]
  · exact quotedMembership?_otherPath isPath isPath_other same negated

theorem quotedMembership?_not_otherPath (isPath : IsPath path) (isPath_other : IsPath other)
    (different : path ≠ other) :
    quotedMembership? field other ("not ".toList ++ comparison path middle value) = none := by
  simpa only [if_true] using quotedMembership?_otherPath isPath isPath_other different true

theorem quotedMembership?_not_otherWord (isPath : IsPath path) (isPath_other : IsPath other)
    (listed : middle ∈ clauseWords) (word : "in".toList ≠ middle) :
    quotedMembership? field other ("not ".toList ++ comparison path middle value) = none := by
  simpa only [if_true] using quotedMembership?_otherWord isPath isPath_other listed word true

theorem quotedMembership?_plain_otherWord (isPath : IsPath path) (isPath_other : IsPath other)
    (listed : middle ∈ clauseWords) (word : "in".toList ≠ middle) :
    quotedMembership? field other (comparison path middle value) = none := by
  simpa only [Bool.false_eq_true, if_false, List.nil_append] using
    quotedMembership?_otherWord isPath isPath_other listed word false

theorem equality_listed : ∀ operator ∈ [Operator.eq, Operator.ne],
    operator.token.toList ∈ clauseWords :=
  tokens_listed (by decide)

theorem quotedEquality?_written {operator : Operator} (form : operator = .eq ∨ operator = .ne)
    (path : List Char) (value : String) :
    quotedEquality? field path
        (comparison path operator.token.toList (quoted value.toList)) =
      some (.of field operator (.one value)) := by
  have member : operator ∈ [Operator.eq, Operator.ne] := by simpa using form
  have solid := beginsSolid_quoted value.toList []
  have read := text?_quoted value []
  rw [List.append_nil] at solid read
  unfold quotedEquality?
  simp only [expect?_comparison, Option.bind_eq_bind, Option.bind_some,
    operator?_written equality_listed member solid, read]
  rfl

theorem quotedEquality?_otherPath (isPath : IsPath path) (isPath_other : IsPath other)
    (different : path ≠ other) :
    quotedEquality? field other (comparison path middle value) = none := by
  unfold quotedEquality?
  refine bind_expect?_other isPath isPath_other different fun cs gap => ?_
  rw [operator?_of_gaps gap]
  rfl

theorem quotedEquality?_otherWord (isPath : IsPath path) (isPath_other : IsPath other)
    (listed : middle ∈ clauseWords)
    (word : ∀ operator ∈ [Operator.eq, Operator.ne], operator.token.toList ≠ middle) :
    quotedEquality? field other (comparison path middle value) = none := by
  by_cases same : path = other
  · subst same
    unfold quotedEquality?
    simp only [expect?_comparison, Option.bind_eq_bind, Option.bind_some,
      operator?_other equality_listed listed word, Option.bind_none]
  · exact quotedEquality?_otherPath isPath isPath_other same

theorem addressIn?_written {items : List String} (nonempty : items ≠ [])
    (bare : ∀ item ∈ items, isBareToken item = true) :
    addressIn? (membership false addressPath (setOf (items.map String.toList))) =
      some (.of .sourceAddress .within (.many items)) := by
  have solid : BeginsSolid (setOf (items.map String.toList)) := ⟨'\x7b', _, rfl, by decide⟩
  have read := bareSet?_written nonempty bare []
  rw [List.append_nil] at read
  unfold addressIn? membership
  simp only [Bool.false_eq_true, if_false, List.nil_append, expect?_comparison,
    Option.bind_eq_bind, Option.bind_some, keyword?_written inWord_mem solid, read]
  rfl

theorem addressIn?_otherPath (isPath : IsPath path) (different : path ≠ addressPath) :
    addressIn? (comparison path middle value) = none := by
  unfold addressIn?
  refine bind_expect?_other isPath isPath_addressPath different fun cs gap => ?_
  rw [keyword?_of_gaps gap]
  rfl

end FixedPaths

section HttpFields

variable {field : Field} {path middle : List Char} {value : List Char}

theorem HttpField.readBack_eq (http : HttpField field path) :
    fieldOfPath (String.ofList path) = field.readBack := by
  cases http with
  | fullUri => rw [String.ofList_toList]; rfl
  | generic path valid notHost => rw [String.ofList_toList]; rfl

theorem fieldOfPath_ne_knownBot (path : String) : fieldOfPath path ≠ .knownBot := by
  unfold fieldOfPath
  split
  · decide
  · split <;> simp

private theorem httpField?_comparison (http : HttpField field path) (middle value : List Char) :
    httpField? (comparison (httpPath path) middle value) =
      some (field.readBack, ' ' :: (middle ++ ' ' :: value)) := by
  rw [comparison_eq, httpField?_written http.isPathChar http.nonempty (by decide),
    http.readBack_eq]

theorem httpField?_of_initial {c : Char} (other : c ≠ 'h') (cs : List Char) :
    httpField? (c :: cs) = none := by
  have refused : word? "http." (c :: cs) = none := by
    rw [word?, http_letters]
    exact expect?_of_head (by decide) (by simpa using Ne.symm other)
  unfold httpField?
  rw [refused]
  rfl

theorem compare_listed : ∀ operator ∈ [Operator.eq, Operator.ne, Operator.contains],
    operator.token.toList ∈ clauseWords :=
  tokens_listed (by decide)

theorem compare?_written {operator : Operator} (http : HttpField field path)
    (form : operator = .eq ∨ operator = .ne ∨ operator = .contains) (value : String) :
    compare? (comparison (httpPath path) operator.token.toList (quoted value.toList)) =
      some (.of field.readBack operator (.one value)) := by
  have member : operator ∈ [Operator.eq, Operator.ne, Operator.contains] := by simpa using form
  have solid := beginsSolid_quoted value.toList []
  have read := text?_quoted value []
  rw [List.append_nil] at solid read
  unfold compare?
  simp only [httpField?_comparison http, Option.bind_eq_bind, Option.bind_some,
    operator?_written compare_listed member solid, read]
  rfl

theorem wildcard?_written (http : HttpField field path) {value : String}
    (noQuote : '"' ∉ value.toList) :
    wildcard? (comparison (httpPath path) "wildcard".toList
        ('r' :: '"' :: value.toList ++ ['"'])) =
      some (.of field.readBack .wildcard (.one value)) := by
  have solid : BeginsSolid ('r' :: '"' :: value.toList ++ ['"']) := ⟨'r', _, rfl, by decide⟩
  have read := readRaw?_written noQuote []
  have listed : "wildcard".toList ∈ clauseWords := token_listed .wildcard (by decide)
  unfold wildcard?
  simp only [httpField?_comparison http, Option.bind_eq_bind, Option.bind_some,
    keyword?_written listed solid]
  simp only [List.cons_append, read, Option.bind_some, String.ofList_toList]
  rfl

theorem wildcard?_other (http : HttpField field path) (listed : middle ∈ clauseWords)
    (different : "wildcard".toList ≠ middle) :
    wildcard? (comparison (httpPath path) middle value) = none := by
  have listed_wildcard : "wildcard".toList ∈ clauseWords := token_listed .wildcard (by decide)
  unfold wildcard?
  simp only [httpField?_comparison http, Option.bind_eq_bind, Option.bind_some,
    keyword?_other listed_wildcard listed different, Option.bind_none]

theorem gaps?_of_not {cs : List Char} (solid : BeginsSolid cs) :
    (word? "not" ("not ".toList ++ cs)).bind gaps? = some cs := by
  have split : "not ".toList ++ cs = "not".toList ++ ' ' :: cs := by simp
  rw [split, word?_append]
  exact gaps?_blank solid

theorem notContains?_written (http : HttpField field path) (value : String) :
    notContains?
        ("not ".toList ++ comparison (httpPath path) "contains".toList (quoted value.toList)) =
      some (.of field.readBack .notContains (.one value)) := by
  have solid := beginsSolid_quoted value.toList []
  have read := text?_quoted value []
  have listed : "contains".toList ∈ clauseWords := token_listed .contains (by decide)
  rw [List.append_nil] at solid read
  unfold notContains?
  rw [Option.bind_eq_bind, ← Option.bind_assoc, gaps?_of_not (beginsSolid_comparison http.isPath)]
  simp only [httpField?_comparison http, Option.bind_some, Option.bind_eq_bind,
    keyword?_written listed solid, read]
  rfl

theorem function?_written (http : HttpField field path) (operator : Operator) (value : String) :
    function? operator (functionClause operator.token (httpPath path) (quoted value.toList)) =
      some (.of field.readBack operator (.one value)) := by
  let arguments := quoted value.toList ++ [')']
  have shape : functionClause operator.token (httpPath path) (quoted value.toList) =
      operator.token.toList ++ '(' :: (httpPath path ++ ',' :: ' ' :: arguments) := by
    simp [functionClause, arguments]
  have opened : ∀ cs, word? "(" ('(' :: cs) = some cs := fun cs => expect?_append ['('] cs
  have comma : ∀ cs, word? "," (',' :: cs) = some cs := fun cs => expect?_append [','] cs
  have closed : word? ")" [')'] = some [] := expect?_append [')'] []
  have solid : skipGaps (' ' :: arguments) = arguments :=
    skipGaps_blank (beginsSolid_quoted value.toList [')'])
  have read : httpField? (httpPath path ++ ',' :: ' ' :: arguments) =
      some (field.readBack, ',' :: ' ' :: arguments) := by
    rw [httpField?_written http.isPathChar http.nonempty (by decide), http.readBack_eq]
  unfold function?
  rw [shape, word?_append]
  simp only [Option.bind_eq_bind, Option.bind_some, opened, read, comma, solid]
  simp only [arguments, text?_quoted, Option.bind_some, closed]
  rfl

end HttpFields

section Headers

variable {word : List Char}

/-- The inside of the parentheses of a header clause, and the closing one. -/
def headerTest (name : String) (word : List Char) (value : String) : List Char :=
  comparison (headerPath name) word (quoted value.toList) ++ [')']

private theorem header?_test (name : String) (word : List Char) (value : String) :
    header? (headerTest name word value) =
      some (name, ' ' :: (word ++ ' ' :: (quoted value.toList ++ [')']))) := by
  have shape : headerTest name word value =
      headerPath name ++ ' ' :: (word ++ ' ' :: (quoted value.toList ++ [')'])) := by
    simp [headerTest, comparison]
  rw [shape, header?_written]

private theorem word?_parenthesis {name : String} {lead : List Char}
    (splits : name.toList = lead ++ ['('])
    (rest : List Char) : word? name (lead ++ '(' :: rest) = some rest := by
  have shape : lead ++ '(' :: rest = name.toList ++ rest := by simp [splits]
  rw [shape, word?_append]

private theorem closing_eq : word? ")" [')'] = some [] := expect?_append [')'] []

theorem headerAny?_written {operator : Operator} (form : operator = .eq ∨ operator = .contains)
    (name value : String) :
    headerAny? ("any".toList ++ '(' :: headerTest name operator.token.toList value) =
      some (.onHeader name operator value) := by
  have listed : ∀ operator ∈ [Operator.eq, Operator.contains],
      operator.token.toList ∈ clauseWords := tokens_listed (by decide)
  have member : operator ∈ [Operator.eq, Operator.contains] := by simpa using form
  have solid := beginsSolid_quoted value.toList [')']
  unfold headerAny?
  rw [word?_parenthesis anyOpen_eq]
  simp only [Option.bind_eq_bind, Option.bind_some, header?_test,
    operator?_written listed member solid, text?_quoted, closing_eq]
  rfl

theorem headerAllNe?_written (name value : String) :
    headerAllNe? ("all".toList ++ '(' :: headerTest name "ne".toList value) =
      some (.onHeader name .ne value) := by
  have listed : "ne".toList ∈ clauseWords := token_listed .ne (by decide)
  have solid := beginsSolid_quoted value.toList [')']
  unfold headerAllNe?
  rw [word?_parenthesis allOpen_eq]
  simp only [Option.bind_eq_bind, Option.bind_some, header?_test, keyword?_written listed solid,
    text?_quoted, closing_eq]
  rfl

theorem headerNotContains?_written (name value : String) :
    headerNotContains?
        ("not ".toList ++ ("any".toList ++ '(' :: headerTest name "contains".toList value)) =
      some (.onHeader name .notContains value) := by
  have listed : "contains".toList ∈ clauseWords := token_listed .contains (by decide)
  have solid := beginsSolid_quoted value.toList [')']
  have begins : BeginsSolid ("any".toList ++ '(' :: headerTest name "contains".toList value) :=
    beginsSolid_append any_quantifier.1 any_quantifier.2.1 _
  unfold headerNotContains?
  rw [Option.bind_eq_bind, ← Option.bind_assoc, gaps?_of_not begins]
  simp only [Option.bind_some, Option.bind_eq_bind]
  rw [word?_parenthesis anyOpen_eq]
  simp only [Option.bind_some, header?_test, keyword?_written listed solid,
    text?_quoted, closing_eq]
  rfl

theorem headerNotContains?_other {cs : List Char} (solid : BeginsSolid cs)
    (other : cs.head? ≠ some 'a') : headerNotContains? ("not ".toList ++ cs) = none := by
  have refused : word? "any(" cs = none :=
    expect?_of_head (by rw [anyOpen_letters]; decide)
      (fun same => other (same.symm.trans (by rw [anyOpen_letters]; rfl)))
  unfold headerNotContains?
  rw [Option.bind_eq_bind, ← Option.bind_assoc, gaps?_of_not solid]
  simp only [Option.bind_some, Option.bind_eq_bind, refused, Option.bind_none]

end Headers

section KnownBot

theorem beginsSolid_knownBotPath : BeginsSolid knownBotPath := by
  have nonempty : knownBotPath ≠ [] := by rw [knownBotPath_letters]; decide
  simpa using beginsSolid_append isPath_knownBotPath.solid nonempty []

theorem knownBot?_written (value : Bool) :
    knownBot? ((if value then [] else "not ".toList) ++ knownBotPath) =
      some (.of .knownBot .eq (.flag value)) := by
  have whole : expect? knownBotPath knownBotPath = some [] := by
    simpa using expect?_append knownBotPath []
  have split : negation ((if value then [] else "not ".toList) ++ knownBotPath) =
      (!value, knownBotPath) := by
    cases value with
    | true => simpa using negation_path isPath_knownBotPath []
    | false =>
      exact negation_not beginsSolid_knownBotPath
  unfold knownBot?
  simp only [split, whole, Option.bind_eq_bind, Option.bind_some, Bool.not_not]
  rfl

theorem knownBot?_comparison {path : List Char} (isPath : IsPath path) (negated : Bool)
    (middle value : List Char) :
    knownBot? ((if negated then "not ".toList else []) ++ comparison path middle value) = none := by
  unfold knownBot?
  simp only [negation_comparison isPath, Option.bind_eq_bind]
  cases met : expect? knownBotPath (comparison path middle value) with
  | none => rfl
  | some after =>
    cases after with
    | cons c cs => rfl
    | nil =>
      have same := Text.expect?_eq_some met
      have blank : ' ' ∈ knownBotPath := by
        rw [List.append_nil] at same
        rw [← same, comparison_eq]
        simp
      exact absurd (isPath_knownBotPath.solid ' ' blank) (by decide)

end KnownBot

end Expression

end EdgePolicy
