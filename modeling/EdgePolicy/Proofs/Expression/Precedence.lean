import EdgePolicy.Proofs.Expression.Soundness

/-
The order of the shapes does not matter.

A clause opens with an optional `not`, a run of path characters and, mostly, a word behind it.  The
opening leaves one shape that may read the clause (`shapeOf`), and whatever another shape reads, that
one reads alike (`read_shapeOf`).  Only the shape that compares the file extension gives way to
another one, the one that compares any `http` field.  So two shapes that read the same text agree,
and trying the shapes in another order changes nothing (`condition?_of_perm`).
-/

set_option autoImplicit false
set_option relaxedAutoImplicit false

namespace EdgePolicy.Expression

open Text (expect? expect?_eq_some isGap trimChars)

structure Opening where
  negated : Bool
  subject : List Char
  word : List Char
deriving DecidableEq, Repr

def opening (cs : List Char) : Opening where
  negated := (negation cs).1
  subject := (negation cs).2.takeWhile isPathChar
  word := (skipGaps ((negation cs).2.dropWhile isPathChar)).takeWhile Char.isAlpha

/-- The shape that reads the clauses with an opening, if any does. -/
def shapeOf (opening : Opening) : Shape :=
  if opening.subject = ['a', 'n', 'y'] then
    if opening.negated then headerNotContains? else headerAny?
  else if opening.subject = ['a', 'l', 'l'] then headerAllNe?
  else if opening.subject = Operator.startsWith.letters then startsWith?
  else if opening.subject = Operator.endsWith.letters then endsWith?
  else if opening.subject = addressPath then addressIn?
  else if opening.subject = countryPath then countryIn?
  else if opening.subject = knownBotPath then knownBot?
  else if opening.subject = botCategoryPath then
    if opening.word = Operator.within.letters then botCategoryIn? else botCategoryCompare?
  else if opening.word = Operator.within.letters then
    if opening.negated then extensionNotIn? else extensionIn?
  else if opening.negated then notContains?
  else if opening.word = Operator.wildcard.letters then wildcard?
  else compare?

section Openings

variable {cs behind rest subject : List Char} {negated : Bool}

private theorem isPathChar_of_isGap {c : Char} (gap : isGap c = true) : isPathChar c = false := by
  rw [← Bool.not_eq_true]
  intro path
  exact absurd gap (by simp [isGap_of_isSolid (isSolid_of_isPathChar path)])

/-- A text behind a run of path characters that does not go on with one. -/
def Stops (cs : List Char) : Prop := ∀ c, cs.head? = some c → isPathChar c = false

private theorem takeWhile_of_stops (chars : ∀ c ∈ subject, isPathChar c = true)
    (stops : Stops behind) :
    (subject ++ behind).takeWhile isPathChar = subject ∧
      (subject ++ behind).dropWhile isPathChar = behind := by
  rw [List.takeWhile_append_of_pos chars, List.dropWhile_append_of_pos chars]
  cases behind with
  | nil => simp
  | cons c cs => simp [stops c rfl]

theorem opening_eq (cut : negation cs = (negated, subject ++ behind))
    (chars : ∀ c ∈ subject, isPathChar c = true) (stops : Stops behind) :
    opening cs = ⟨negated, subject, (skipGaps behind).takeWhile Char.isAlpha⟩ := by
  obtain ⟨taken, dropped⟩ := takeWhile_of_stops chars stops
  simp only [opening, cut, taken, dropped]

private theorem clauseWords_alpha : ∀ word ∈ clauseWords, (∀ c ∈ word, c.isAlpha = true) ∧ word ≠
    [] := by
  decide

private theorem word_of_keyword? {word : String} (listed : word.toList ∈ clauseWords)
    (read : keyword? word behind = some rest) :
    Stops behind ∧ (skipGaps behind).takeWhile Char.isAlpha = word.toList := by
  obtain ⟨alpha, nonempty⟩ := clauseWords_alpha word.toList listed
  obtain ⟨solid, -, -⟩ := clauseWords_solid word.toList listed
  simp only [keyword?, Option.bind_eq_bind, Option.bind_eq_some_iff] at read
  obtain ⟨_, start, _, found, stop⟩ := read
  obtain ⟨gap, filled, gaps, rfl⟩ := gaps?_eq_some start
  obtain ⟨gap', filled', gaps', rfl⟩ := gaps?_eq_some stop
  obtain rfl := expect?_eq_some found
  obtain ⟨d, ds, rfl⟩ := List.exists_cons_of_ne_nil filled
  obtain ⟨d', ds', rfl⟩ := List.exists_cons_of_ne_nil filled'
  refine ⟨fun c head => ?_, ?_⟩
  · obtain rfl : d = c := by simpa using head
    exact isPathChar_of_isGap (gaps d List.mem_cons_self)
  · have unspaced : skipGaps ((d :: ds) ++ (word.toList ++ ((d' :: ds') ++ rest))) =
        word.toList ++ ((d' :: ds') ++ rest) := by
      rw [skipGaps, List.dropWhile_append_of_pos gaps]
      exact skipGaps_of_solid (beginsSolid_append solid nonempty _)
    have blank : d'.isAlpha = false := by
      rw [← Bool.not_eq_true]
      intro letter
      have unblank := isAsciiBlank_of_isAlpha letter
      rw [Text.isAsciiBlank_of_isGap (gaps' d' List.mem_cons_self)] at unblank
      cases unblank
    rw [unspaced, List.takeWhile_append_of_pos alpha]
    simp [blank]

private theorem opening_of_word {word : String} (cut : negation cs = (negated, subject ++ behind))
    (chars : ∀ c ∈ subject, isPathChar c = true) (listed : word.toList ∈ clauseWords)
    (read : keyword? word behind = some rest) :
    opening cs = ⟨negated, subject, word.toList⟩ := by
  obtain ⟨stops, found⟩ := word_of_keyword? listed read
  rw [opening_eq cut chars stops, found]

private theorem opening_of_call (subject : List Char)
    (cut : negation cs = (negated, subject ++ '(' :: behind))
    (chars : ∀ c ∈ subject, isPathChar c = true) :
    (opening cs).negated = negated ∧ (opening cs).subject = subject := by
  have stops : Stops ('(' :: behind) := fun c head => by
    obtain rfl : '(' = c := by simpa using head
    decide
  rw [opening_eq cut chars stops]
  exact ⟨rfl, rfl⟩

private theorem operator?_eq_some {operators : List Operator} {operator : Operator}
    (read : operator? operators cs = some (operator, rest)) :
    operator ∈ operators ∧ keyword? operator.token cs = some rest := by
  induction operators with
  | nil => exact nomatch read
  | cons first others ih =>
    unfold operator? at read
    split at read
    · next found =>
      obtain ⟨rfl, rfl⟩ := Prod.mk.inj (Option.some.inj read)
      exact ⟨List.mem_cons_self, found⟩
    · obtain ⟨member, found⟩ := ih read
      exact ⟨List.mem_cons_of_mem first member, found⟩

private theorem negation_of_not {behind rest : List Char} (word : word? "not" cs = some behind)
    (gap : gaps? behind = some rest) : negation cs = (true, rest) := by
  simp only [negation, word, Option.bind_some, gap]

private theorem negation_of_initial {d : Char} (begins : subject.head? = some d) (other : d ≠ 'n')
    (rest : List Char) : negation (subject ++ rest) = (false, subject ++ rest) := by
  apply negation_of_head
  rw [List.head?_append, begins, Option.some_or]
  simpa using other

end Openings

section Readings

variable {cs : List Char} {c : Condition} {field : Field} {path : List Char}

def namedPaths : List (List Char) :=
  [extensionPath, countryPath, botCategoryPath, addressPath, knownBotPath]

private theorem namedPaths_chars : ∀ path ∈ namedPaths, ∀ d ∈ path, isPathChar d = true := by
  unfold namedPaths
  rw [extensionPath_letters, countryPath_letters, botCategoryPath_letters, addressPath_letters,
    knownBotPath_letters]
  decide

private theorem opening_of_membership (listed : path ∈ namedPaths)
    (read : quotedMembership? field path cs = some c) :
    ∃ negated, opening cs = ⟨negated, path, Operator.within.letters⟩ ∧
      c.operator = if negated then .notWithin else .within := by
  rcases cut : negation cs with ⟨negated, inner⟩
  simp only [quotedMembership?, cut, Option.bind_eq_bind, Option.bind_eq_some_iff] at read
  obtain ⟨_, begins, _, word, _, -, ended⟩ := read
  obtain ⟨-, rfl⟩ := ending?_eq_some.mp ended
  obtain rfl := expect?_eq_some begins
  refine ⟨negated, ?_, rfl⟩
  rw [← Operator.token_letters]
  exact opening_of_word cut (namedPaths_chars path listed) inWord_mem word

private theorem opening_of_equality {initial : Char} (begins : path.head? = some initial)
    (other : initial ≠ 'n') (listed : path ∈ namedPaths)
    (read : quotedEquality? field path cs = some c) :
    ∃ operator ∈ [Operator.eq, .ne], opening cs = ⟨false, path, operator.letters⟩ := by
  simp only [quotedEquality?, Option.bind_eq_bind, Option.bind_eq_some_iff] at read
  obtain ⟨_, found, ⟨operator, _⟩, word, _⟩ := read
  obtain rfl := expect?_eq_some found
  obtain ⟨form, word⟩ := operator?_eq_some word
  refine ⟨operator, form, ?_⟩
  rw [← Operator.token_letters]
  exact opening_of_word (negation_of_initial begins other _) (namedPaths_chars path listed)
    (equality_listed operator form) word

private theorem opening_of_http {negated : Bool} {inner behind rest : List Char} {word : String}
    (cut : negation cs = (negated, inner)) (begins : httpField? inner = some (field, behind))
    (listed : word.toList ∈ clauseWords) (read : keyword? word behind = some rest) :
    ∃ path, opening cs = ⟨negated, httpPath path, word.toList⟩ := by
  simp only [httpField?, Option.bind_eq_bind, Option.bind_eq_some_iff] at begins
  obtain ⟨_, start, ⟨path, _⟩, run, found⟩ := begins
  obtain ⟨-, rfl⟩ := Prod.mk.inj (Option.some.inj found)
  obtain ⟨-, chars, rfl⟩ := many?_eq_some run
  have shape := expect?_eq_some start
  rw [← List.append_assoc, httpPath_eq] at shape
  refine ⟨path, opening_of_word (shape ▸ cut) (fun d member => ?_) listed read⟩
  rw [← httpPath_eq, List.mem_append, http_letters] at member
  rcases member with lead | member
  · revert d
    decide
  · exact chars d member

end Readings

/-- Whatever a shape reads, its opening leads to that shape. -/
def Picked (shape : Shape) : Prop := ∀ cs c, shape cs = some c → shapeOf (opening cs) = shape

section Shapes

private theorem shapeOf_http (negated : Bool) (path word : List Char) :
    shapeOf ⟨negated, httpPath path, word⟩ =
      if word = Operator.within.letters then if negated then extensionNotIn? else extensionIn?
      else if negated then notContains?
      else if word = Operator.wildcard.letters then wildcard?
      else compare? := by
  simp [shapeOf, httpPath, Operator.letters, addressPath_letters, countryPath_letters,
    knownBotPath_letters, botCategoryPath_letters]

private theorem shapeOf_botCategory (negated : Bool) (word : List Char) :
    shapeOf ⟨negated, botCategoryPath, word⟩ =
      if word = Operator.within.letters then botCategoryIn? else botCategoryCompare? := by
  simp [shapeOf, Operator.letters, addressPath_letters, countryPath_letters,
    knownBotPath_letters, botCategoryPath_letters]

private theorem shapeOf_address (negated : Bool) (word : List Char) :
    shapeOf ⟨negated, addressPath, word⟩ = addressIn? := by
  simp [shapeOf, Operator.letters, addressPath_letters]

private theorem shapeOf_country (negated : Bool) (word : List Char) :
    shapeOf ⟨negated, countryPath, word⟩ = countryIn? := by
  simp [shapeOf, Operator.letters, addressPath_letters, countryPath_letters]

private theorem shapeOf_knownBot (negated : Bool) (word : List Char) :
    shapeOf ⟨negated, knownBotPath, word⟩ = knownBot? := by
  simp [shapeOf, Operator.letters, addressPath_letters, countryPath_letters, knownBotPath_letters]

private theorem picked_extensionNotIn : Picked extensionNotIn? := by
  intro cs c read
  obtain ⟨condition, read, kept⟩ := Option.bind_eq_some_iff.mp read
  obtain ⟨negated, opens, operator⟩ := opening_of_membership (by simp [namedPaths]) read
  cases negated with
  | true => rw [opens, extensionPath_eq, shapeOf_http, if_pos rfl, if_pos rfl]
  | false => simp [under, operator] at kept

private theorem picked_extensionIn : Picked extensionIn? := by
  intro cs c read
  obtain ⟨condition, read, kept⟩ := Option.bind_eq_some_iff.mp read
  obtain ⟨negated, opens, operator⟩ := opening_of_membership (by simp [namedPaths]) read
  cases negated with
  | true => simp [under, operator] at kept
  | false => rw [opens, extensionPath_eq, shapeOf_http, if_pos rfl, if_neg (by decide)]

private theorem picked_countryIn : Picked countryIn? := by
  intro cs c read
  obtain ⟨negated, opens, -⟩ := opening_of_membership (by simp [namedPaths]) read
  rw [opens, shapeOf_country]

private theorem picked_botCategoryIn : Picked botCategoryIn? := by
  intro cs c read
  obtain ⟨negated, opens, -⟩ := opening_of_membership (by simp [namedPaths]) read
  rw [opens, shapeOf_botCategory, if_pos rfl]

private theorem picked_botCategoryCompare : Picked botCategoryCompare? := by
  intro cs c read
  obtain ⟨operator, form, opens⟩ :=
    opening_of_equality botCategoryPath_head (by decide) (by simp [namedPaths]) read
  have other : ∀ operator ∈ [Operator.eq, .ne], operator.letters ≠ Operator.within.letters := by
    decide
  rw [opens, shapeOf_botCategory, if_neg (other operator form)]

private theorem picked_addressIn : Picked addressIn? := by
  intro cs c read
  simp only [addressIn?, Option.bind_eq_bind, Option.bind_eq_some_iff] at read
  obtain ⟨_, begins, _, word, -⟩ := read
  obtain rfl := expect?_eq_some begins
  have chars := namedPaths_chars addressPath (by simp [namedPaths])
  rw [opening_of_word (negation_of_initial addressPath_head (by decide) _) chars inWord_mem word,
    shapeOf_address]

private theorem picked_knownBot : Picked knownBot? := by
  intro cs c read
  rcases cut : negation cs with ⟨negated, inner⟩
  simp only [knownBot?, cut, Option.bind_eq_bind, Option.bind_eq_some_iff] at read
  obtain ⟨_, begins, ended⟩ := read
  obtain ⟨rfl, -⟩ := ending?_eq_some.mp ended
  obtain rfl := expect?_eq_some begins
  have chars := namedPaths_chars knownBotPath (by simp [namedPaths])
  rw [opening_eq cut chars (by simp [Stops]), shapeOf_knownBot]

private theorem picked_headerNotContains : Picked headerNotContains? := by
  intro cs c read
  simp only [headerNotContains?, Option.bind_eq_bind, Option.bind_eq_some_iff] at read
  obtain ⟨_, word, _, gap, _, begins, -⟩ := read
  have cut := negation_of_not word gap
  rw [expect?_eq_some begins, anyOpen_letters] at cut
  obtain ⟨negated, subject⟩ := opening_of_call ['a', 'n', 'y'] cut (by decide)
  rw [shapeOf, if_pos subject, if_pos negated]

private theorem picked_headerAny : Picked headerAny? := by
  intro cs c read
  simp only [headerAny?, Option.bind_eq_bind, Option.bind_eq_some_iff] at read
  obtain ⟨inner, begins, -⟩ := read
  obtain rfl := expect?_eq_some begins
  have cut := negation_of_initial anyOpen_head (by decide) inner
  rw [anyOpen_letters] at cut ⊢
  obtain ⟨negated, subject⟩ := opening_of_call ['a', 'n', 'y'] cut (by decide)
  rw [shapeOf, if_pos subject, if_neg (Bool.eq_false_iff.mp negated)]

private theorem picked_headerAllNe : Picked headerAllNe? := by
  intro cs c read
  simp only [headerAllNe?, Option.bind_eq_bind, Option.bind_eq_some_iff] at read
  obtain ⟨inner, begins, -⟩ := read
  obtain rfl := expect?_eq_some begins
  have cut := negation_of_initial allOpen_head (by decide) inner
  rw [allOpen_letters] at cut ⊢
  obtain ⟨-, subject⟩ := opening_of_call ['a', 'l', 'l'] cut (by decide)
  rw [shapeOf, subject, if_neg (by decide), if_pos rfl]

private theorem subject_of_function {operator : Operator} {cs : List Char} {c : Condition}
    (form : operator = .startsWith ∨ operator = .endsWith) (read : function? operator cs = some c) :
    (opening cs).subject = operator.letters := by
  simp only [function?, Option.bind_eq_bind, Option.bind_eq_some_iff] at read
  obtain ⟨_, name, inner, parenthesis, -⟩ := read
  obtain rfl := expect?_eq_some name
  obtain rfl := expect?_eq_some parenthesis
  have cut : negation (operator.token.toList ++ ("(".toList ++ inner)) =
      (false, operator.token.toList ++ '(' :: inner) := by
    rcases form with rfl | rfl
    · exact negation_of_initial startsWith_head (by decide) _
    · exact negation_of_initial endsWith_head (by decide) _
  rw [Operator.token_letters] at cut ⊢
  exact (opening_of_call operator.letters cut (by rcases form with rfl | rfl <;> decide)).2

private theorem picked_startsWith : Picked startsWith? := by
  intro cs c read
  simp [shapeOf, subject_of_function (.inl rfl) read, Operator.letters]

private theorem picked_endsWith : Picked endsWith? := by
  intro cs c read
  simp [shapeOf, subject_of_function (.inr rfl) read, Operator.letters]

private theorem picked_notContains : Picked notContains? := by
  intro cs c read
  simp only [notContains?, Option.bind_eq_bind, Option.bind_eq_some_iff] at read
  obtain ⟨_, negates, inner, gap, _, begins, _, word, -⟩ := read
  have cut := negation_of_not negates gap
  obtain ⟨path, opens⟩ := opening_of_http cut begins (token_listed .contains (by decide)) word
  rw [opens, shapeOf_http, Operator.token_letters, if_neg (by decide), if_pos rfl]

private theorem negation_of_http {cs rest : List Char} {field : Field}
    (begins : httpField? cs = some (field, rest)) : negation cs = (false, cs) := by
  simp only [httpField?, Option.bind_eq_bind, Option.bind_eq_some_iff] at begins
  obtain ⟨behind, start, -⟩ := begins
  obtain rfl := expect?_eq_some start
  have initial : "http.".toList.head? = some 'h' := by
    rw [http_letters]
    rfl
  exact negation_of_initial initial (by decide) behind

private theorem picked_wildcard : Picked wildcard? := by
  intro cs c read
  simp only [wildcard?, Option.bind_eq_bind, Option.bind_eq_some_iff] at read
  obtain ⟨_, begins, _, word, -⟩ := read
  obtain ⟨path, opens⟩ := opening_of_http (negation_of_http begins) begins
    (token_listed .wildcard (by decide)) word
  rw [opens, shapeOf_http, Operator.token_letters, if_neg (by decide), if_neg (by decide),
    if_pos rfl]

private theorem picked_compare : Picked compare? := by
  intro cs c read
  simp only [compare?, Option.bind_eq_bind, Option.bind_eq_some_iff] at read
  obtain ⟨_, begins, ⟨operator, _⟩, word, -⟩ := read
  obtain ⟨form, word⟩ := operator?_eq_some word
  obtain ⟨path, opens⟩ := opening_of_http (negation_of_http begins) begins
    (compare_listed operator form) word
  have other : ∀ operator ∈ [Operator.eq, .ne, .contains],
      operator.letters ≠ Operator.within.letters ∧
        operator.letters ≠ Operator.wildcard.letters := by
    decide
  rw [opens, shapeOf_http, Operator.token_letters, if_neg (other operator form).1,
    if_neg (by decide), if_neg (other operator form).2]

private theorem operator?_append {operators : List Operator} (more : List Operator)
    {cs : List Char} {found : Operator × List Char} (read : operator? operators cs = some found) :
    operator? (operators ++ more) cs = some found := by
  induction operators with
  | nil => exact nomatch read
  | cons first others ih =>
    simp only [List.cons_append, operator?] at read ⊢
    split at read
    · next found => simpa only [found] using read
    · next refused => simpa only [refused] using ih read

private theorem compare_of_extensionCompare {cs : List Char} {c : Condition}
    (read : extensionCompare? cs = some c) : compare? cs = some c := by
  simp only [extensionCompare?, quotedEquality?, Option.bind_eq_bind,
    Option.bind_eq_some_iff] at read
  obtain ⟨behind, begins, ⟨operator, after⟩, word, ⟨value, rest⟩, text, ended⟩ := read
  obtain rfl := expect?_eq_some begins
  obtain ⟨form, between⟩ := operator?_eq_some word
  obtain ⟨stops, -⟩ := word_of_keyword? (equality_listed operator form) between
  have word' := operator?_append [.contains] word
  have field : httpField? (extensionPath ++ behind) = some (.fileExtension, behind) := by
    cases behind with
    | nil => cases between
    | cons d ds =>
      have chars : ∀ d ∈ "request.uri.path.extension".toList, isPathChar d = true := by
        rw [requestExtension_letters]
        decide
      rw [extensionPath_eq, httpField?_written chars (by rw [requestExtension_letters]; decide)
        (stops d rfl), String.ofList_toList]
      rfl
  simp only [compare?, field, Option.bind_eq_bind, Option.bind_some]
  rw [show [Operator.eq, .ne, .contains] = [.eq, .ne] ++ [.contains] from rfl, word']
  simp only [Option.bind_some, text]
  exact ended

end Shapes

/-- What a shape reads, the shape that its opening leads to reads alike. -/
theorem read_shapeOf {shape : Shape} (listed : shape ∈ shapes) {cs : List Char} {c : Condition}
    (read : shape cs = some c) : shapeOf (opening cs) cs = some c := by
  have same : ∀ {shape : Shape}, Picked shape → shape cs = some c →
      shapeOf (opening cs) cs = some c := fun picked read => by rwa [picked cs c read]
  simp only [shapes, List.mem_cons, List.not_mem_nil, or_false] at listed
  rcases listed with rfl | rfl | rfl | rfl | rfl | rfl | rfl | rfl | rfl | rfl | rfl | rfl | rfl |
    rfl | rfl | rfl
  · exact same picked_headerNotContains read
  · exact same picked_headerAny read
  · exact same picked_headerAllNe read
  · exact same picked_extensionNotIn read
  · exact same picked_extensionIn read
  · exact same picked_compare (compare_of_extensionCompare read)
  · exact same picked_notContains read
  · exact same picked_wildcard read
  · exact same picked_compare read
  · exact same picked_startsWith read
  · exact same picked_endsWith read
  · exact same picked_addressIn read
  · exact same picked_countryIn read
  · exact same picked_knownBot read
  · exact same picked_botCategoryIn read
  · exact same picked_botCategoryCompare read

private theorem shapes_agree {first second : Shape} (listed : first ∈ shapes)
    (listed' : second ∈ shapes) {cs : List Char} {c c' : Condition} (read : first cs = some c)
    (read' : second cs = some c') :
    c = c' :=
  Option.some.inj ((read_shapeOf listed read).symm.trans (read_shapeOf listed' read'))

private theorem firstMatch_eq_some_iff {order : List Shape}
    (listed : ∀ shape ∈ order, shape ∈ shapes) {cs : List Char} {c : Condition} :
    firstMatch order cs = some c ↔ ∃ shape ∈ order, shape cs = some c := by
  refine ⟨List.exists_of_findSome?_eq_some, ?_⟩
  rintro ⟨shape, member, read⟩
  obtain ⟨c', found⟩ : ∃ c', firstMatch order cs = some c' :=
    Option.isSome_iff_exists.mp (List.findSome?_isSome_iff.mpr ⟨shape, member, by simp [read]⟩)
  obtain ⟨other, member', read'⟩ := List.exists_of_findSome?_eq_some found
  rw [found, shapes_agree (listed other member') (listed shape member) read' read]

/-- The precedence of the shapes decides nothing: tried in any order they recognise the same
condition, and two of them that read the same clause read the same condition. -/
theorem condition?_of_perm {order : List Shape} (perm : order.Perm shapes) (cs : List Char) :
    firstMatch order (trimChars cs) = condition? cs ∧
      ∀ first ∈ shapes, ∀ second ∈ shapes, ∀ c c', first (trimChars cs) = some c →
        second (trimChars cs) = some c' → c = c' := by
  have listed : ∀ shape ∈ order, shape ∈ shapes := fun shape => perm.mem_iff.mp
  refine ⟨Option.ext fun c => ?_, fun first member second member' c c' => shapes_agree member member'⟩
  unfold condition?
  rw [firstMatch_eq_some_iff listed, firstMatch_eq_some_iff fun _ member => member]
  simp only [perm.mem_iff]

/-- A comparison of the file extension, which two shapes read. -/
def extensionClause : List Char := " http.request.uri.path.extension\tne \"php\" ".toList

/-- Tried from the last one to the first, another shape comes first and reads the clause alike. -/
theorem condition?_of_perm_sample :
    shapes.reverse.Perm shapes ∧
      firstMatch shapes.reverse (trimChars extensionClause) =
        some (.of .fileExtension .ne (.one "php")) ∧
      extensionCompare? (trimChars extensionClause) = compare? (trimChars extensionClause) := by
  have perm : shapes.reverse.Perm shapes := List.reverse_perm shapes
  obtain ⟨same, agree⟩ := condition?_of_perm perm extensionClause
  have extension : extensionCompare? (trimChars extensionClause) =
      some (.of .fileExtension .ne (.one "php")) := by decide +kernel
  have compare : compare? (trimChars extensionClause) =
      some (.of .fileExtension .ne (.one "php")) := by decide +kernel
  have alike := agree extensionCompare? (by simp [shapes]) compare? (by simp [shapes]) _ _ extension
    compare
  refine ⟨perm, same.trans (by decide +kernel), ?_⟩
  rw [extension, compare, alike]

end EdgePolicy.Expression
