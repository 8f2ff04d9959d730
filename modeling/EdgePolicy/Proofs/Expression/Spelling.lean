import EdgePolicy.Expression.Clause

/-
The words of the filter-expression language, letter by letter.

A literal is the text of its letters, but the letters of a literal are slow to compute.  They are
stated here once, so that everything about words and paths is decided on lists of letters.
-/

set_option autoImplicit false
set_option relaxedAutoImplicit false

namespace EdgePolicy

def Operator.letters : Operator → List Char
  | eq => ['e', 'q']
  | ne => ['n', 'e']
  | contains => ['c', 'o', 'n', 't', 'a', 'i', 'n', 's']
  | notContains => ['n', 'o', 't', '_', 'c', 'o', 'n', 't', 'a', 'i', 'n', 's']
  | within => ['i', 'n']
  | notWithin => ['n', 'o', 't', '_', 'i', 'n']
  | wildcard => ['w', 'i', 'l', 'd', 'c', 'a', 'r', 'd']
  | startsWith => ['s', 't', 'a', 'r', 't', 's', '_', 'w', 'i', 't', 'h']
  | endsWith => ['e', 'n', 'd', 's', '_', 'w', 'i', 't', 'h']

theorem Operator.token_letters (operator : Operator) :
    operator.token.toList = operator.letters := by
  cases operator <;> exact String.toList_ofList

namespace Expression

theorem not_letters : "not".toList = ['n', 'o', 't'] := String.toList_ofList

theorem notBlank_letters : "not ".toList = ['n', 'o', 't', ' '] := String.toList_ofList

theorem eq_letters : "eq".toList = ['e', 'q'] := String.toList_ofList

theorem any_letters : "any".toList = ['a', 'n', 'y'] := String.toList_ofList

theorem all_letters : "all".toList = ['a', 'l', 'l'] := String.toList_ofList

theorem notAny_letters : "not any".toList =
    ['n', 'o', 't', ' ', 'a', 'n', 'y'] :=
  String.toList_ofList

theorem anyOpen_letters : "any(".toList = ['a', 'n', 'y', '('] := String.toList_ofList

theorem allOpen_letters : "all(".toList = ['a', 'l', 'l', '('] := String.toList_ofList

theorem http_letters : "http.".toList = ['h', 't', 't', 'p', '.'] := String.toList_ofList

theorem host_letters : "host".toList = ['h', 'o', 's', 't'] := String.toList_ofList

theorem httpHost_letters : "http.host".toList =
    ['h', 't', 't', 'p', '.', 'h', 'o', 's', 't'] :=
  String.toList_ofList

theorem hostEq_letters : "http.host eq ".toList =
    ['h', 't', 't', 'p', '.', 'h', 'o', 's', 't', ' ', 'e', 'q', ' '] :=
  String.toList_ofList

theorem headers_letters : "http.request.headers".toList =
    ['h', 't', 't', 'p', '.', 'r', 'e', 'q', 'u', 'e', 's', 't', '.', 'h', 'e', 'a', 'd', 'e',
      'r', 's'] :=
  String.toList_ofList

theorem headersOpen_letters : "http.request.headers[".toList =
    ['h', 't', 't', 'p', '.', 'r', 'e', 'q', 'u', 'e', 's', 't', '.', 'h', 'e', 'a', 'd', 'e',
      'r', 's', '['] :=
  String.toList_ofList

theorem headersClose_letters : "][*]".toList = [']', '[', '*', ']'] := String.toList_ofList

theorem requestUri_letters : "request.full_uri".toList =
    ['r', 'e', 'q', 'u', 'e', 's', 't', '.', 'f', 'u', 'l', 'l', '_', 'u', 'r', 'i'] :=
  String.toList_ofList

theorem requestExtension_letters : "request.uri.path.extension".toList =
    ['r', 'e', 'q', 'u', 'e', 's', 't', '.', 'u', 'r', 'i', '.', 'p', 'a', 't', 'h', '.', 'e',
      'x', 't', 'e', 'n', 's', 'i', 'o', 'n'] :=
  String.toList_ofList

theorem fullUriPath_letters : fullUriPath =
    ['h', 't', 't', 'p', '.', 'r', 'e', 'q', 'u', 'e', 's', 't', '.', 'f', 'u', 'l', 'l', '_',
      'u', 'r', 'i'] :=
  String.toList_ofList

theorem extensionPath_letters : extensionPath =
    ['h', 't', 't', 'p', '.', 'r', 'e', 'q', 'u', 'e', 's', 't', '.', 'u', 'r', 'i', '.', 'p',
      'a', 't', 'h', '.', 'e', 'x', 't', 'e', 'n', 's', 'i', 'o', 'n'] :=
  String.toList_ofList

theorem botCategoryPath_letters : botCategoryPath =
    ['c', 'f', '.', 'v', 'e', 'r', 'i', 'f', 'i', 'e', 'd', '_', 'b', 'o', 't', '_', 'c', 'a',
      't', 'e', 'g', 'o', 'r', 'y'] :=
  String.toList_ofList

theorem addressPath_letters : addressPath = ['i', 'p', '.', 's', 'r', 'c'] := String.toList_ofList

theorem countryPath_letters : countryPath =
    ['i', 'p', '.', 's', 'r', 'c', '.', 'c', 'o', 'u', 'n', 't', 'r', 'y'] :=
  String.toList_ofList

theorem knownBotPath_letters : knownBotPath =
    ['c', 'f', '.', 'c', 'l', 'i', 'e', 'n', 't', '.', 'b', 'o', 't'] :=
  String.toList_ofList

theorem extensionPath_head : extensionPath.head? = some 'h' := by
  rw [extensionPath_letters]
  rfl

theorem countryPath_head : countryPath.head? = some 'i' := by
  rw [countryPath_letters]
  rfl

theorem botCategoryPath_head : botCategoryPath.head? = some 'c' := by
  rw [botCategoryPath_letters]
  rfl

theorem addressPath_head : addressPath.head? = some 'i' := by
  rw [addressPath_letters]
  rfl

theorem knownBotPath_head : knownBotPath.head? = some 'c' := by
  rw [knownBotPath_letters]
  rfl

theorem httpHost_head : "http.host".toList.head? = some 'h' := by
  rw [httpHost_letters]
  rfl

theorem not_head : "not".toList.head? = some 'n' := by
  rw [not_letters]
  rfl

theorem anyOpen_head : "any(".toList.head? = some 'a' := by
  rw [anyOpen_letters]
  rfl

theorem allOpen_head : "all(".toList.head? = some 'a' := by
  rw [allOpen_letters]
  rfl

theorem startsWith_head : Operator.startsWith.token.toList.head? = some 's' := by
  rw [Operator.token_letters]
  rfl

theorem endsWith_head : Operator.endsWith.token.toList.head? = some 'e' := by
  rw [Operator.token_letters]
  rfl

theorem countryPath_ne_addressPath : countryPath ≠ addressPath := by
  rw [countryPath_letters, addressPath_letters]
  decide

theorem ne_of_head {u v : List Char} {c d : Char} (first : u.head? = some c)
    (second : v.head? = some d) (different : c ≠ d) : u ≠ v := by
  rintro rfl
  exact different (Option.some.inj (first.symm.trans second))

theorem notAny_eq : "not any".toList = "not ".toList ++ "any".toList := by
  rw [notAny_letters, notBlank_letters, any_letters]
  rfl

theorem anyOpen_eq : "any(".toList = "any".toList ++ ['('] := by
  rw [anyOpen_letters, any_letters]
  rfl

theorem allOpen_eq : "all(".toList = "all".toList ++ ['('] := by
  rw [allOpen_letters, all_letters]
  rfl

theorem token_injective {first second : Operator}
    (same : first.token.toList = second.token.toList) : first = second := by
  have tokens : first.token = second.token := String.toList_inj.mp same
  have read := Operator.ofToken_token first
  rw [tokens, Operator.ofToken_token] at read
  exact (Option.some.inj read).symm

theorem token_ne (first : Operator) {second : Operator} (different : first ≠ second) :
    first.token.toList ≠ second.token.toList :=
  fun same => different (token_injective same)

/-- The operators that stand as a word between a path and a value. -/
def clauseOperators : List Operator := [.eq, .ne, .contains, .wildcard, .within]

/-- The words that stand between a path and a value. -/
def clauseWords : List (List Char) := clauseOperators.map Operator.letters

theorem token_listed (operator : Operator) (listed : operator ∈ clauseOperators) :
    operator.token.toList ∈ clauseWords := by
  rw [Operator.token_letters]
  exact List.mem_map_of_mem listed

theorem clauseWords_head : ∀ word ∈ clauseWords, ∀ other ∈ clauseWords,
    word ≠ other → word.head? ≠ other.head? := by
  decide

end Expression

end EdgePolicy
