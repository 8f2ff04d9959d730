import EdgePolicy.Proofs.Except
import EdgePolicy.Proofs.Expression.Passage
import EdgePolicy.Proofs.Expression.Spelling

/-
The forms that clauses are written in.

`Writes` relates a condition to the text of its clause, one constructor for each form;
`writes_of_clause` says that the writer knows no other form.  Every written clause begins and ends
with a character that is not blank, and the scanner crosses it (`Writes.crosses`), provided that a
bare set of addresses holds together (`Coherent`), as one does when no address carries a parenthesis
or is itself a keyword (`Tame.coherent`).
-/

set_option autoImplicit false
set_option relaxedAutoImplicit false

namespace EdgePolicy.Expression

open Text (isBlank isAsciiBlank isBlank_of_isAsciiBlank trimChars)

/-- What stands in front of the parenthesis and between path and value of a header clause. -/
inductive HeaderForm : Operator → List Char → List Char → Prop
  | anyEq : HeaderForm .eq "any".toList "eq".toList
  | allNe : HeaderForm .ne "all".toList "ne".toList
  | anyContains : HeaderForm .contains "any".toList "contains".toList
  | notAnyContains : HeaderForm .notContains "not any".toList "contains".toList

inductive HttpField : Field → List Char → Prop
  | fullUri : HttpField .fullUri "request.full_uri".toList
  | generic (path : String) (valid : isFieldPath path = true) (notHost : path ≠ "host") :
      HttpField (.generic path) path.toList

/-- The fields that are compared with quoted values; some of them only with sets. -/
inductive QuotedField : Field → List Char → Bool → Prop
  | fileExtension : QuotedField .fileExtension extensionPath true
  | sourceCountry : QuotedField .sourceCountry countryPath false
  | verifiedBotCategory : QuotedField .verifiedBotCategory botCategoryPath true

def httpPath (path : List Char) : List Char := 'h' :: 't' :: 't' :: 'p' :: '.' :: path

theorem httpPath_eq (path : List Char) : "http.".toList ++ path = httpPath path := by
  rw [http_letters]
  rfl

private theorem fullUriPath_eq : fullUriPath = httpPath "request.full_uri".toList := by
  rw [fullUriPath_letters, requestUri_letters]
  rfl

/-- A condition and the text of its clause. -/
inductive Writes (c : Condition) : List Char → Prop
  | header {operator : Operator} {name value : String} {lead word : List Char}
      (field : c.field = .header) (named : c.name = some name) (operand : c.operand = .one value)
      (under : c.operator = operator) (form : HeaderForm operator lead word) :
      Writes c (lead ++ '(' :: comparison (headerPath name) word (quoted value.toList) ++ [')'])
  | compare {operator : Operator} {path : List Char} {value : String}
      (field : HttpField c.field path) (operand : c.operand = .one value)
      (under : c.operator = operator)
      (form : operator = .eq ∨ operator = .ne ∨ operator = .contains) :
      Writes c (comparison (httpPath path) operator.token.toList (quoted value.toList))
  | notContains {path : List Char} {value : String} (field : HttpField c.field path)
      (operand : c.operand = .one value) (under : c.operator = .notContains) :
      Writes c
        ("not ".toList ++ comparison (httpPath path) "contains".toList (quoted value.toList))
  | wildcard {path : List Char} {value : String} (field : HttpField c.field path)
      (operand : c.operand = .one value) (under : c.operator = .wildcard)
      (noQuote : '"' ∉ value.toList) :
      Writes c
        (comparison (httpPath path) "wildcard".toList ('r' :: '"' :: value.toList ++ ['"']))
  | function {operator : Operator} {path : List Char} {value : String}
      (field : HttpField c.field path) (operand : c.operand = .one value)
      (under : c.operator = operator) (form : operator = .startsWith ∨ operator = .endsWith) :
      Writes c (functionClause operator.token (httpPath path) (quoted value.toList))
  | membership {negated single : Bool} {path : List Char}
      (field : QuotedField c.field path single)
      (under : c.operator = if negated then .notWithin else .within)
      (nonempty : c.operand.items ≠ []) :
      Writes c (Expression.membership negated path (quotedSet c.operand.items))
  | equality {operator : Operator} {path : List Char} {value : String}
      (field : QuotedField c.field path true) (operand : c.operand = .one value)
      (under : c.operator = operator) (form : operator = .eq ∨ operator = .ne) :
      Writes c (comparison path operator.token.toList (quoted value.toList))
  | addresses (field : c.field = .sourceAddress) (under : c.operator = .within)
      (nonempty : c.operand.items ≠ []) (bare : ∀ item ∈ c.operand.items, isBareToken item = true) :
      Writes c
        (Expression.membership false addressPath (setOf (c.operand.items.map String.toList)))
  | knownBot {value : Bool} (field : c.field = .knownBot) (under : c.operator = .eq)
      (operand : c.operand = .flag value ∨ c.operand = .one (if value then "true" else "false")) :
      Writes c ((if value then [] else "not ".toList) ++ knownBotPath)

private theorem scalar_eq_ok {c : Condition} {value : String} (h : scalar c = .ok value) :
    c.operand = .one value := by
  unfold scalar at h
  cases operand : c.operand <;> simp_all [Operand.text?]

private theorem setItems_eq_ok {c : Condition} {items : List String} (h : setItems c = .ok items) :
    items = c.operand.items ∧ c.operand.items ≠ [] := by
  unfold setItems at h
  split at h
  · simp at h
  · split at h
    · simp at h
    · next nonempty => exact ⟨(Except.ok.inj h).symm, nonempty⟩

private theorem writes_of_headerClause {c : Condition} {cs : List Char} (field : c.field = .header)
    (h : headerClause c = .ok cs) : Writes c cs := by
  unfold headerClause at h
  cases named : c.name with
  | none => simp [named, bind, Except.bind] at h
  | some name =>
    by_cases empty : name.isEmpty = true
    · simp [named, empty, bind, Except.bind] at h
    cases value : scalar c with
    | error => simp [named, empty, value, bind, Except.bind] at h
    | ok text =>
      have operand := scalar_eq_ok value
      simp only [named, empty, value, bind, Except.bind, if_false, Bool.false_eq_true] at h
      cases under : c.operator <;> simp only [under] at h <;> cases h
      · exact .header field named operand under .anyEq
      · exact .header field named operand under .allNe
      · exact .header field named operand under .anyContains
      · exact .header field named operand under .notAnyContains

private theorem writes_of_textClause {c : Condition} {path cs : List Char}
    (field : HttpField c.field path) (h : textClause (httpPath path) c = .ok cs) : Writes c cs := by
  obtain ⟨text, value, h⟩ := bind_eq_ok.mp h
  have operand := scalar_eq_ok value
  cases under : c.operator with
  | eq =>
    simp only [under] at h
    cases h
    exact .compare field operand under (.inl rfl)
  | ne =>
    simp only [under] at h
    cases h
    exact .compare field operand under (.inr (.inl rfl))
  | contains =>
    simp only [under] at h
    cases h
    exact .compare field operand under (.inr (.inr rfl))
  | notContains =>
    simp only [under] at h
    cases h
    exact .notContains field operand under
  | wildcard =>
    simp only [under] at h
    split at h
    · cases h
    · next noQuote =>
      cases h
      exact .wildcard field operand under (by simpa using noQuote)
  | startsWith =>
    simp only [under] at h
    cases h
    have written := Writes.function field operand under (.inl rfl)
    exact written
  | endsWith =>
    simp only [under] at h
    cases h
    have written := Writes.function field operand under (.inr rfl)
    exact written
  | within => simp [under] at h
  | notWithin => simp [under] at h

private theorem writes_of_genericClause {c : Condition} {path : String} {cs : List Char}
    (field : c.field = .generic path) (h : genericClause path c = .ok cs) : Writes c cs := by
  unfold genericClause at h
  rw [httpPath_eq] at h
  split at h
  · simp at h
  · next valid =>
    split at h
    · simp at h
    · next notHost =>
      exact writes_of_textClause (field ▸ .generic path (by simpa using valid) notHost) h

private theorem writes_of_quotedClause {c : Condition} {path cs : List Char} {single : Bool}
    (field : QuotedField c.field path single) (h : quotedClause path single c = .ok cs) :
    Writes c cs := by
  have set : ∀ negated : Bool, c.operator = (if negated then .notWithin else .within) →
      (setItems c).map (fun items => membership negated path (quotedSet items)) = .ok cs →
      Writes c cs := by
    intro negated under written
    obtain ⟨items, read, rfl⟩ := map_eq_ok.mp written
    obtain ⟨rfl, nonempty⟩ := setItems_eq_ok read
    exact .membership field under nonempty
  have equality : ∀ operator, c.operator = operator → (operator = .eq ∨ operator = .ne) →
      (if single then do
        return comparison path operator.token.toList (quoted (← scalar c).toList)
      else Except.error (ConditionFault.operator operator c.field)) = .ok cs → Writes c cs := by
    intro operator under form written
    cases single with
    | false => simp at written
    | true =>
      rw [if_pos rfl] at written
      obtain ⟨text, value, written⟩ := bind_eq_ok.mp written
      cases written
      exact .equality field (scalar_eq_ok value) under form
  unfold quotedClause at h
  cases under : c.operator with
  | within =>
    simp only [under] at h
    exact set false under h
  | notWithin =>
    simp only [under] at h
    exact set true under h
  | eq =>
    simp only [under] at h
    exact equality .eq under (.inl rfl) h
  | ne =>
    simp only [under] at h
    exact equality .ne under (.inr rfl) h
  | _ => simp [under] at h

private theorem writes_of_addressClause {c : Condition} {cs : List Char}
    (field : c.field = .sourceAddress) (h : addressClause c = .ok cs) : Writes c cs := by
  unfold addressClause at h
  cases under : c.operator with
  | within =>
    simp only [under] at h
    obtain ⟨items, read, h⟩ := bind_eq_ok.mp h
    obtain ⟨rfl, nonempty⟩ := setItems_eq_ok read
    split at h
    · simp at h
    · next bare =>
      cases h
      exact .addresses field under nonempty (by simpa using bare)
  | _ => simp [under] at h

private theorem flagOf?_eq_some {text : String} {value : Bool}
    (read : Operand.flagOf? text = some value) :
    text = if value then "true" else "false" := by
  unfold Operand.flagOf? at read
  split at read
  · next said =>
    cases read
    exact said
  · split at read
    · next said =>
      cases read
      exact said
    · cases read

private theorem writes_of_knownBotClause {c : Condition} {cs : List Char}
    (field : c.field = .knownBot) (h : knownBotClause c = .ok cs) : Writes c cs := by
  have flag : ∀ value : Bool,
      c.operand = .flag value ∨ c.operand = .one (if value then "true" else "false") →
      c.operator = .eq → ((if value then [] else "not ".toList) ++ knownBotPath) = cs →
      Writes c cs := by
    rintro value operand under rfl
    exact .knownBot field under operand
  unfold knownBotClause at h
  cases under : c.operator with
  | eq =>
    simp only [under] at h
    cases held : c.operand with
    | flag value =>
      simp only [held] at h
      cases value with
      | true => exact flag true (.inl held) under (Except.ok.inj h)
      | false => exact flag false (.inl held) under (Except.ok.inj h)
    | one text =>
      simp only [held] at h
      cases read : Operand.flagOf? text with
      | none => simp [read] at h
      | some value =>
        have operand : c.operand = .one (if value then "true" else "false") :=
          held.trans (congrArg _ (flagOf?_eq_some read))
        simp only [read] at h
        cases value with
        | true => exact flag true (.inr operand) under (Except.ok.inj h)
        | false => exact flag false (.inr operand) under (Except.ok.inj h)
    | many texts => simp [held] at h
  | _ => simp [under] at h

/-- Every clause that is written has one of the forms. -/
theorem writes_of_clause {c : Condition} {cs : List Char} (h : clause c = .ok cs) :
    Writes c cs := by
  unfold clause at h
  cases field : c.field with
  | header => exact writes_of_headerClause field (by simpa only [field] using h)
  | fullUri =>
    have http : HttpField c.field "request.full_uri".toList := field ▸ HttpField.fullUri
    exact writes_of_textClause http (by simpa only [field, fullUriPath_eq] using h)
  | generic path => exact writes_of_genericClause field (by simpa only [field] using h)
  | fileExtension =>
    have quoted : QuotedField c.field extensionPath true := field ▸ QuotedField.fileExtension
    exact writes_of_quotedClause quoted (by simpa only [field] using h)
  | sourceAddress => exact writes_of_addressClause field (by simpa only [field] using h)
  | sourceCountry =>
    have quoted : QuotedField c.field countryPath false := field ▸ QuotedField.sourceCountry
    exact writes_of_quotedClause quoted (by simpa only [field] using h)
  | knownBot => exact writes_of_knownBotClause field (by simpa only [field] using h)
  | verifiedBotCategory =>
    have quoted : QuotedField c.field botCategoryPath true :=
      field ▸ QuotedField.verifiedBotCategory
    exact writes_of_quotedClause quoted (by simpa only [field] using h)

theorem isSolid_of_isPathChar {c : Char} (path : isPathChar c = true) : isSolid c = true := by
  rw [← Bool.not_eq_false]
  intro notSolid
  simp only [isSolid, isPlain, isAsciiBlank, Bool.and_eq_false_iff, bne_eq_false_iff_eq,
    Bool.not_eq_false', Bool.or_eq_true, beq_iff_eq] at notSolid
  rcases notSolid with ((rfl | rfl) | rfl) | ((((rfl | rfl) | rfl) | rfl) | rfl) <;>
    exact absurd path (by decide)

theorem HttpField.isPathChar {field : Field} {path : List Char} (http : HttpField field path) :
    ∀ c ∈ path, isPathChar c = true := by
  cases http with
  | fullUri =>
    rw [requestUri_letters]
    decide
  | generic path valid notHost =>
    simp only [isFieldPath, Bool.and_eq_true, List.all_eq_true] at valid
    exact valid.2

theorem HttpField.nonempty {field : Field} {path : List Char} (http : HttpField field path) :
    path ≠ [] := by
  cases http with
  | fullUri =>
    rw [requestUri_letters]
    decide
  | generic path valid notHost =>
    simp only [isFieldPath, Bool.and_eq_true, Bool.not_eq_true'] at valid
    intro empty
    simp [String.toList_eq_nil_iff.mp empty] at valid

/-- A path that may begin a clause. -/
structure IsPath (path : List Char) : Prop where
  solid : ∀ c ∈ path, isSolid c = true
  initial : path.head? ∈ [some 'c', some 'h', some 'i']

theorem IsPath.begins {path : List Char} (isPath : IsPath path) :
    ∃ c cs, path = c :: cs ∧ c ∈ ['c', 'h', 'i'] := by
  have initial := isPath.initial
  cases path with
  | nil => simp at initial
  | cons c cs => exact ⟨c, cs, rfl, by simpa using initial⟩

theorem HttpField.isPath {field : Field} {path : List Char} (http : HttpField field path) :
    IsPath (httpPath path) := by
  refine ⟨fun c member => ?_, by simp [httpPath]⟩
  simp only [httpPath, List.mem_cons] at member
  rcases member with rfl | rfl | rfl | rfl | rfl | tail
  iterate 5 decide
  exact isSolid_of_isPathChar (http.isPathChar c tail)

theorem QuotedField.isPath {field : Field} {path : List Char} {single : Bool}
    (quoted : QuotedField field path single) : IsPath path := by
  cases quoted with
  | fileExtension =>
    rw [extensionPath_letters]
    exact ⟨by decide, by decide⟩
  | sourceCountry =>
    rw [countryPath_letters]
    exact ⟨by decide, by decide⟩
  | verifiedBotCategory =>
    rw [botCategoryPath_letters]
    exact ⟨by decide, by decide⟩

theorem isPath_addressPath : IsPath addressPath := by
  rw [addressPath_letters]
  exact ⟨by decide, by decide⟩

theorem isPath_knownBotPath : IsPath knownBotPath := by
  rw [knownBotPath_letters]
  exact ⟨by decide, by decide⟩

/-- The keywords that separate the pieces of an expression. -/
def separators : List (List Char) := [orWord, andWord]

theorem isKeyword_of_mem {keyword : List Char} (listed : keyword ∈ separators) :
    IsKeyword keyword := by
  simp only [separators, List.mem_cons, List.not_mem_nil, or_false] at listed
  rcases listed with rfl | rfl
  · exact isKeyword_orWord
  · exact isKeyword_andWord

theorem clauseWords_solid : ∀ word ∈ clauseWords,
    (∀ c ∈ word, isSolid c = true) ∧ word ≠ [] ∧ word ∉ separators := by
  decide

/-- An address keeps the scanner at its depth and is no keyword. -/
structure IsTame (item : String) : Prop where
  notOpen : '(' ∉ item.toList
  notClose : ')' ∉ item.toList
  notAnd : item ≠ "and"
  notOr : item ≠ "or"

/-- The addresses that a condition lists are tame. -/
def Tame (c : Condition) : Prop :=
  c.field = .sourceAddress → ∀ item ∈ c.operand.items, IsTame item

theorem IsTame.solid {item : String} (tame : IsTame item) (bare : isBareToken item = true) :
    ∀ c ∈ item.toList, isSolid c = true := by
  intro c member
  simp only [isBareToken, Bool.and_eq_true, List.all_eq_true] at bare
  have kept := bare.2 c member
  simp only [Bool.not_eq_true', Bool.or_eq_false_iff, beq_eq_false_iff_ne] at kept
  have notBlank : isAsciiBlank c = false := by
    rw [← Bool.not_eq_true]
    intro blank
    simp [isBlank_of_isAsciiBlank blank] at kept
  have notOpen : c ≠ '(' := fun same => tame.notOpen (same ▸ member)
  have notClose : c ≠ ')' := fun same => tame.notClose (same ▸ member)
  simp [isSolid, isPlain, notBlank, notOpen, notClose, kept.2]

section Crossings

variable {keyword : List Char} (listed : keyword ∈ separators) {depth : Nat}
include listed

theorem unlike_of_initial {c : Char} (initial : c ∉ ['o', 'a']) (notBlank : isAsciiBlank c = false)
    (cs : List Char) : Unlike keyword (c :: cs) := by
  simp only [List.mem_cons, List.not_mem_nil, or_false, not_or] at initial
  simp only [separators, List.mem_cons, List.not_mem_nil, or_false] at listed
  rcases listed with rfl | rfl
  · exact IsKeyword.unlike_of_head initial.1 notBlank
  · exact IsKeyword.unlike_of_head initial.2 notBlank

theorem IsPath.unlike {path : List Char} (isPath : IsPath path) (rest : List Char) :
    Unlike keyword (path ++ rest) := by
  obtain ⟨c, cs, rfl, initial⟩ := isPath.begins
  have others : ∀ c ∈ ['c', 'h', 'i'], c ∉ ['o', 'a'] ∧ isAsciiBlank c = false := by decide
  exact unlike_of_initial listed (others c initial).1 (others c initial).2 (cs ++ rest)

private theorem crosses_comparison {path middle value : List Char}
    (crosses_path : Crosses keyword depth path) (word : middle ∈ clauseWords)
    (crosses_value : Crosses keyword depth (' ' :: value)) :
    Crosses keyword depth (comparison path middle value) := by
  obtain ⟨solid, nonempty, other⟩ := clauseWords_solid middle word
  have unlike : Unlike keyword (middle ++ ' ' :: value) :=
    (isKeyword_of_mem listed).unlike middle
      (fun c member => isAsciiBlank_of_isSolid (solid c member))
      (fun same => other (same ▸ listed)) (by decide) (fun empty => absurd empty nonempty)
  have tail : Crosses keyword depth (' ' :: (middle ++ ' ' :: value)) :=
    .blank unlike ((Crosses.solid solid).append crosses_value)
  simpa [comparison] using crosses_path.append tail

theorem crosses_value (value : List Char) : Crosses keyword depth (' ' :: quoted value) :=
  .quoted (isKeyword_of_mem listed) (by decide) (by decide) (fun _ => rfl) value

omit listed in
private theorem headerPath_eq (name : String) :
    headerPath name =
      "http.request.headers".toList ++ '[' :: quoted name.toList ++ "][*]".toList := by
  have split : "http.request.headers[".toList = "http.request.headers".toList ++ ['['] := by
    rw [headersOpen_letters, headers_letters]
    rfl
  unfold headerPath
  rw [split, List.append_assoc _ ['['], List.singleton_append]

private theorem crosses_headerPath (name : String) :
    Crosses keyword depth (headerPath name) := by
  have start : Crosses keyword depth "http.request.headers".toList :=
    .solid (by rw [headers_letters]; decide)
  have middle : Crosses keyword depth ('[' :: quoted name.toList) :=
    .quoted (isKeyword_of_mem listed) (by decide) (by decide) (by decide) name.toList
  have stop : Crosses keyword depth "][*]".toList := .solid (by rw [headersClose_letters]; decide)
  rw [headerPath_eq]
  exact (start.append middle).append stop

private theorem crosses_quotedItems {c : Char} (plain : isPlain c = true)
    (notRaw : c ≠ 'r') (gap : isAsciiBlank c = true → c = ' ') (first : String)
    (others : List String) :
    Crosses keyword depth
      (c :: [' '].intercalate ((first :: others).map fun item => quoted item.toList)) := by
  induction others generalizing c first with
  | nil =>
    have only : Crosses keyword depth (c :: quoted first.toList) :=
      .quoted (isKeyword_of_mem listed) plain notRaw gap first.toList
    simpa [List.intercalate] using only
  | cons second others ih =>
    have head : Crosses keyword depth (c :: quoted first.toList) :=
      .quoted (isKeyword_of_mem listed) plain notRaw gap first.toList
    have tail : Crosses keyword depth (' ' :: [' '].intercalate
        ((second :: others).map fun item => quoted item.toList)) :=
      ih (by decide) (by decide) (fun _ => rfl) second
    simpa [List.intercalate, List.intersperse] using head.append tail

private theorem unlike_word {item : List Char} (solid : ∀ c ∈ item, isSolid c = true)
    (nonempty : item ≠ []) (other : item ∉ separators) {stop : Char}
    (stops : stop.isAlpha = false) (tail : List Char) : Unlike keyword (item ++ stop :: tail) :=
  (isKeyword_of_mem listed).unlike item
    (fun c member => isAsciiBlank_of_isSolid (solid c member)) (fun same => other (same ▸ listed))
    stops (fun empty => absurd empty nonempty)

private theorem crosses_bareItems {first : List Char} {others : List (List Char)}
    (solid : ∀ item ∈ first :: others, ∀ c ∈ item, isSolid c = true)
    (nonempty : ∀ item ∈ first :: others, item ≠ [])
    (distinct : ∀ item ∈ first :: others, item ∉ separators) :
    Crosses keyword depth ([' '].intercalate (first :: others) ++ ['\x7d']) ∧
      Unlike keyword ([' '].intercalate (first :: others) ++ ['\x7d']) := by
  have head : Crosses keyword depth first := .solid (solid first List.mem_cons_self)
  have unlike : ∀ {stop : Char}, stop.isAlpha = false → ∀ tail : List Char,
      Unlike keyword (first ++ stop :: tail) :=
    unlike_word listed (solid first List.mem_cons_self) (nonempty first List.mem_cons_self)
      (distinct first List.mem_cons_self)
  induction others generalizing first with
  | nil =>
    have brace : Crosses keyword depth ['\x7d'] := .solid (by decide)
    constructor
    · simpa [List.intercalate] using head.append brace
    · simpa [List.intercalate] using unlike (by decide : ('\x7d').isAlpha = false) []
  | cons second others ih =>
    have solid_second := solid second (by simp)
    obtain ⟨crosses_tail, unlike_tail⟩ :=
      ih (fun item member => solid item (List.mem_cons_of_mem first member))
        (fun item member => nonempty item (List.mem_cons_of_mem first member))
        (fun item member => distinct item (List.mem_cons_of_mem first member))
        (.solid solid_second)
        (unlike_word listed solid_second (nonempty second (by simp)) (distinct second (by simp)))
    have shape : [' '].intercalate (first :: second :: others) ++ ['\x7d'] =
        first ++ ' ' :: ([' '].intercalate (second :: others) ++ ['\x7d']) := by
      simp [List.intercalate, List.intersperse]
    rw [shape]
    exact ⟨head.append (.blank unlike_tail crosses_tail), unlike (by decide) _⟩

private theorem crosses_not {cs : List Char}
    (inner : Crosses keyword depth cs ∧ Unlike keyword cs) :
    Crosses keyword depth ("not ".toList ++ cs) ∧ Unlike keyword ("not ".toList ++ cs) := by
  have split : "not ".toList ++ cs = "not".toList ++ ' ' :: cs := by simp
  have head : Crosses keyword depth "not".toList := .solid (by rw [not_letters]; decide)
  rw [split]
  refine ⟨head.append (.blank inner.2 inner.1), ?_⟩
  simpa using unlike_of_initial listed (by decide) (by decide) ('o' :: 't' :: ' ' :: cs)

theorem crosses_pathComparison {path middle value : List Char} (isPath : IsPath path)
    (word : middle ∈ clauseWords) (crosses_value : Crosses keyword depth (' ' :: value)) :
    Crosses keyword depth (comparison path middle value) ∧
      Unlike keyword (comparison path middle value) := by
  refine ⟨crosses_comparison listed (.solid isPath.solid) word crosses_value, ?_⟩
  simpa only [comparison, List.append_assoc] using
    isPath.unlike listed (' ' :: middle ++ ' ' :: value)

private theorem crosses_membership {path set : List Char} (isPath : IsPath path)
    (crosses_set : Crosses keyword depth (' ' :: set)) (negated : Bool) :
    Crosses keyword depth (membership negated path set) ∧
      Unlike keyword (membership negated path set) := by
  have plain := crosses_pathComparison listed isPath
    (token_listed .within (by decide)) crosses_set
  cases negated with
  | false => exact plain
  | true => exact crosses_not listed plain

private theorem crosses_quotedSet {items : List String} (nonempty : items ≠ []) :
    Crosses keyword depth (' ' :: quotedSet items) := by
  obtain ⟨first, others, rfl⟩ := List.exists_cons_of_ne_nil nonempty
  have items_cross : Crosses keyword depth
      ('\x7b' :: [' '].intercalate ((first :: others).map fun item => quoted item.toList)) :=
    crosses_quotedItems listed (by decide) (by decide) (by decide) first others
  have brace : Crosses keyword depth ['\x7d'] := .solid (by decide)
  exact .blank (unlike_of_initial listed (by decide) (by decide) _) (items_cross.append brace)

private theorem crosses_bareSet {items : List String} (nonempty : items ≠ [])
    (bare : ∀ item ∈ items, isBareToken item = true) (tame : ∀ item ∈ items, IsTame item) :
    Crosses keyword depth (' ' :: setOf (items.map String.toList)) := by
  obtain ⟨first, others, rfl⟩ := List.exists_cons_of_ne_nil nonempty
  have solid : ∀ item ∈ (first :: others).map String.toList, ∀ c ∈ item, isSolid c = true := by
    intro item member
    obtain ⟨text, listed_text, rfl⟩ := List.mem_map.mp member
    exact (tame text listed_text).solid (bare text listed_text)
  have kept : ∀ item ∈ (first :: others).map String.toList, item ≠ [] := by
    intro item member
    obtain ⟨text, listed_text, rfl⟩ := List.mem_map.mp member
    have token := bare text listed_text
    simp only [isBareToken, Bool.and_eq_true, Bool.not_eq_true'] at token
    intro empty
    simp [String.toList_eq_nil_iff.mp empty] at token
  have distinct : ∀ item ∈ (first :: others).map String.toList, item ∉ separators := by
    intro item member
    obtain ⟨text, listed_text, rfl⟩ := List.mem_map.mp member
    have other := tame text listed_text
    simp only [separators, List.mem_cons, List.not_mem_nil, or_false, not_or]
    exact ⟨fun same => other.notOr (String.toList_inj.mp same),
      fun same => other.notAnd (String.toList_inj.mp same)⟩
  have items_cross : Crosses keyword depth
      ([' '].intercalate ((first :: others).map String.toList) ++ ['\x7d']) :=
    (crosses_bareItems listed solid kept distinct).1
  exact .blank (unlike_of_initial listed (by decide) (by decide) _)
    (.solid_cons (by decide) items_cross)

private theorem crosses_headerTest {word : List Char} (room : depth < deepest) (name value : String)
    (between : word ∈ clauseWords) : Crosses keyword depth
      ('(' :: comparison (headerPath name) word (quoted value.toList) ++ [')']) :=
  .parenthesized room
    (crosses_comparison listed (crosses_headerPath listed name) between
      (crosses_value listed value.toList))

private theorem crosses_quantified {lead test : List Char} (solid : ∀ c ∈ lead, isSolid c = true)
    (nonempty : lead ≠ []) (other : lead ∉ separators)
    (crosses_test : Crosses keyword depth ('(' :: test)) :
    Crosses keyword depth (lead ++ '(' :: test) ∧ Unlike keyword (lead ++ '(' :: test) :=
  ⟨(Crosses.solid solid).append crosses_test,
    unlike_word listed solid nonempty other (by decide) test⟩

omit listed in
theorem any_quantifier : (∀ c ∈ "any".toList, isSolid c = true) ∧ "any".toList ≠ [] ∧
    "any".toList ∉ separators := by
  rw [any_letters]
  decide

omit listed in
private theorem all_quantifier : (∀ c ∈ "all".toList, isSolid c = true) ∧ "all".toList ≠ [] ∧
    "all".toList ∉ separators := by
  rw [all_letters]
  decide

/-- The set of addresses that a condition lists holds together: the scanner crosses it, by itself and
within the parentheses of a group. -/
def Coherent (c : Condition) : Prop :=
  c.field = .sourceAddress → c.operand.items ≠ [] →
    (∀ item ∈ c.operand.items, isBareToken item = true) →
    ∀ keyword ∈ separators, ∀ depth ≤ 1,
      Crosses keyword depth (' ' :: setOf (c.operand.items.map String.toList))

omit listed in
theorem Tame.coherent {c : Condition} (tame : Tame c) : Coherent c :=
  fun field nonempty bare _ listed _ _ => crosses_bareSet listed nonempty bare (tame field)

/-- The scanner crosses a written clause, which is unlike a separator. -/
theorem Writes.crosses {c : Condition} {cs : List Char} (writes : Writes c cs)
    (coherent : Coherent c) (shallow : depth ≤ 1) :
    Crosses keyword depth cs ∧ Unlike keyword cs := by
  have room : depth < deepest := lt_deepest shallow
  cases writes with
  | @header operator name value lead word field named operand under form =>
    rw [List.append_assoc]
    have test : ∀ word ∈ clauseWords, Crosses keyword depth
        ('(' :: (comparison (headerPath name) word (quoted value.toList) ++ [')'])) :=
      fun word between => crosses_headerTest listed room name value between
    have any : ∀ word ∈ clauseWords, _ := fun word between =>
      crosses_quantified listed any_quantifier.1 any_quantifier.2.1 any_quantifier.2.2
        (test word between)
    cases form with
    | anyEq => exact any _ (token_listed .eq (by decide))
    | allNe =>
      exact crosses_quantified listed all_quantifier.1 all_quantifier.2.1 all_quantifier.2.2
        (test _ (token_listed .ne (by decide)))
    | anyContains => exact any _ (token_listed .contains (by decide))
    | notAnyContains =>
      rw [notAny_eq, List.append_assoc]
      exact crosses_not listed (any _ (token_listed .contains (by decide)))
  | @compare operator path value field operand under form =>
    have word : operator.token.toList ∈ clauseWords :=
      token_listed operator (by rcases form with rfl | rfl | rfl <;> decide)
    exact crosses_pathComparison listed field.isPath word (crosses_value listed value.toList)
  | @notContains path value field operand under =>
    exact crosses_not listed (crosses_pathComparison listed field.isPath
      (token_listed .contains (by decide)) (crosses_value listed value.toList))
  | wildcard field operand under noQuote =>
    refine crosses_pathComparison listed field.isPath (token_listed .wildcard (by decide))
      (.raw (isKeyword_of_mem listed) noQuote ?_)
    -- The letter in front of a raw literal is no keyword.
    rintro rfl
    revert listed
    decide
  | @function operator path value field operand under form =>
    have value_crosses : Crosses keyword (depth + 1) (' ' :: quoted value.toList) :=
      crosses_value listed value.toList
    have arguments : Crosses keyword depth
        ('(' :: (httpPath path ++ ',' :: ' ' :: quoted value.toList) ++ [')']) :=
      .parenthesized room ((Crosses.solid field.isPath.solid).append
        (.solid_cons (by decide) value_crosses))
    have name : (∀ c ∈ operator.token.toList, isSolid c = true) ∧
        operator.token.toList ≠ [] ∧ operator.token.toList ∉ separators := by
      rw [Operator.token_letters]
      rcases form with rfl | rfl <;> decide
    simpa [functionClause] using
      crosses_quantified listed name.1 name.2.1 name.2.2 arguments
  | @membership negated single path field under nonempty =>
    exact crosses_membership listed field.isPath (crosses_quotedSet listed nonempty) negated
  | @equality operator path value field operand under form =>
    have word : operator.token.toList ∈ clauseWords :=
      token_listed operator (by rcases form with rfl | rfl <;> decide)
    exact crosses_pathComparison listed field.isPath word (crosses_value listed value.toList)
  | addresses field under nonempty bare =>
    exact crosses_membership listed isPath_addressPath
      (coherent field nonempty bare keyword listed depth shallow) false
  | @knownBot value field under operand =>
    have plain : Crosses keyword depth knownBotPath ∧ Unlike keyword knownBotPath :=
      ⟨.solid isPath_knownBotPath.solid, by simpa using isPath_knownBotPath.unlike listed []⟩
    cases value with
    | true => exact plain
    | false => exact crosses_not listed plain

end Crossings

section Ends

/-- A text that begins with a character that is neither blank nor a parenthesis. -/
def Opens (cs : List Char) : Prop := ∃ c rest, cs = c :: rest ∧ isBlank c = false ∧ c ≠ '('

/-- A text that ends with a character that is not blank. -/
def Closes (cs : List Char) : Prop := ∃ front c, cs = front ++ [c] ∧ isBlank c = false

theorem Closes.append_left {v : List Char} (closes : Closes v) (u : List Char) :
    Closes (u ++ v) := by
  obtain ⟨front, c, rfl, notBlank⟩ := closes
  exact ⟨u ++ front, c, (List.append_assoc u front [c]).symm, notBlank⟩

theorem closes_singleton {c : Char} (notBlank : isBlank c = false) : Closes [c] :=
  ⟨[], c, rfl, notBlank⟩

theorem closes_quoted (value : List Char) : Closes (quoted value) :=
  ⟨'"' :: escape value, '"', rfl, by decide⟩

theorem closes_setOf (items : List (List Char)) : Closes (setOf items) :=
  ⟨'\x7b' :: [' '].intercalate items, '\x7d', rfl, by decide⟩

theorem Closes.comparison {value : List Char} (closes : Closes value) (path word : List Char) :
    Closes (comparison path word value) := by
  obtain ⟨front, c, rfl, notBlank⟩ := closes
  exact ⟨path ++ ' ' :: word ++ ' ' :: front, c, by simp [Expression.comparison], notBlank⟩

theorem trimChars_of_first {c : Char} {rest : List Char} (notBlank : isBlank c = false)
    (closes : Closes (c :: rest)) : trimChars (c :: rest) = c :: rest := by
  obtain ⟨front, d, shape, notBlank_last⟩ := closes
  have first : (c :: rest).dropWhile isBlank = c :: rest := by simp [notBlank]
  rw [trimChars, first, shape]
  simp [notBlank_last]

theorem trimChars_of_ends {cs : List Char} (opens : Opens cs) (closes : Closes cs) :
    trimChars cs = cs := by
  obtain ⟨c, rest, rfl, notBlank, -⟩ := opens
  exact trimChars_of_first notBlank closes

def clauseInitials : List Char := ['a', 'c', 'e', 'h', 'i', 'n', 's']

theorem HeaderForm.initial {operator : Operator} {lead word : List Char}
    (form : HeaderForm operator lead word) : ∃ c ∈ ['a', 'n'], lead.head? = some c := by
  cases form with
  | anyEq | anyContains =>
    rw [any_letters]
    exact ⟨'a', by decide, rfl⟩
  | allNe =>
    rw [all_letters]
    exact ⟨'a', by decide, rfl⟩
  | notAnyContains =>
    rw [notAny_letters]
    exact ⟨'n', by decide, rfl⟩

theorem function_initial {operator : Operator}
    (form : operator = .startsWith ∨ operator = .endsWith) :
    ∃ c ∈ ['s', 'e'], operator.token.toList.head? = some c := by
  rw [Operator.token_letters]
  rcases form with rfl | rfl
  · exact ⟨'s', by decide, rfl⟩
  · exact ⟨'e', by decide, rfl⟩

private theorem opens_of_initial {c : Char} (listed : c ∈ clauseInitials) {cs : List Char}
    (begins : cs.head? = some c) : Opens cs := by
  cases cs with
  | nil => simp at begins
  | cons d ds =>
    obtain rfl : d = c := by simpa using begins
    have kept : ∀ d ∈ clauseInitials, isBlank d = false ∧ d ≠ '(' := by decide
    exact ⟨d, ds, rfl, kept d listed⟩

theorem IsPath.opens {path : List Char} (isPath : IsPath path) (rest : List Char) :
    Opens (path ++ rest) := by
  obtain ⟨c, cs, rfl, initial⟩ := isPath.begins
  have initials : ∀ c ∈ ['c', 'h', 'i'], c ∈ clauseInitials := by decide
  exact opens_of_initial (initials c initial) rfl

theorem opens_comparison {path : List Char} (isPath : IsPath path) (word value : List Char) :
    Opens (comparison path word value) := by
  rw [comparison, List.append_assoc]
  exact isPath.opens _

private theorem opens_not (cs : List Char) : Opens ("not ".toList ++ cs) := by
  rw [notBlank_letters]
  exact opens_of_initial (by decide) rfl

private theorem opens_membership {path : List Char} (isPath : IsPath path) (negated : Bool)
    (set : List Char) : Opens (membership negated path set) := by
  unfold membership
  cases negated with
  | false => simpa using opens_comparison isPath "in".toList set
  | true => exact opens_not _

private theorem closes_membership {set : List Char} (closes : Closes set) (negated : Bool)
    (path : List Char) : Closes (membership negated path set) :=
  (closes.comparison path "in".toList).append_left _

theorem Writes.opens {c : Condition} {cs : List Char} (writes : Writes c cs) : Opens cs := by
  cases writes with
  | @header operator name value lead word field named operand under form =>
    rw [List.append_assoc]
    obtain ⟨d, listed, begins⟩ := form.initial
    have initials : ∀ c ∈ ['a', 'n'], c ∈ clauseInitials := by decide
    exact opens_of_initial (initials d listed) (by rw [List.head?_append, begins, Option.some_or])
  | compare field => exact opens_comparison field.isPath _ _
  | notContains field => exact opens_not _
  | wildcard field => exact opens_comparison field.isPath _ _
  | @function operator path value field operand under form =>
    obtain ⟨d, listed, begins⟩ := function_initial form
    have initials : ∀ c ∈ ['s', 'e'], c ∈ clauseInitials := by decide
    unfold functionClause
    simp only [List.append_assoc]
    exact opens_of_initial (initials d listed) (by rw [List.head?_append, begins, Option.some_or])
  | membership field => exact opens_membership field.isPath _ _
  | equality field => exact opens_comparison field.isPath _ _
  | addresses => exact opens_membership isPath_addressPath false _
  | @knownBot value =>
    cases value with
    | true => simpa using isPath_knownBotPath.opens []
    | false => exact opens_not _

theorem Writes.closes {c : Condition} {cs : List Char} (writes : Writes c cs) : Closes cs := by
  cases writes with
  | header => exact (closes_singleton (by decide)).append_left _
  | compare => exact (closes_quoted _).comparison _ _
  | notContains => exact ((closes_quoted _).comparison _ _).append_left _
  | wildcard => exact ((closes_singleton (by decide)).append_left _).comparison _ _
  | function => exact (closes_singleton (by decide)).append_left _
  | membership => exact closes_membership (closes_setOf _) _ _
  | equality => exact (closes_quoted _).comparison _ _
  | addresses => exact closes_membership (closes_setOf _) false _
  | knownBot =>
    have closes : Closes knownBotPath := by
      rw [knownBotPath_letters]
      exact ⟨['c', 'f', '.', 'c', 'l', 'i', 'e', 'n', 't', '.', 'b', 'o'], 't', rfl, by decide⟩
    exact closes.append_left _

end Ends

end EdgePolicy.Expression
