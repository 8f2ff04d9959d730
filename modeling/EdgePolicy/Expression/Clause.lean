import EdgePolicy.Expression.Fault
import EdgePolicy.Expression.Literal

/-
Writing conditions as clauses of the filter-expression language.

Every field has a form of its own for every operator it supports.  A condition without a form is
refused with the first fault in a fixed order: the name of the field, the shape of the operand, the
operator.
-/

set_option autoImplicit false
set_option relaxedAutoImplicit false

namespace EdgePolicy.Expression

open Text (isBlank)

def fullUriPath : List Char := "http.request.full_uri".toList

def extensionPath : List Char := "http.request.uri.path.extension".toList

def botCategoryPath : List Char := "cf.verified_bot_category".toList

def addressPath : List Char := "ip.src".toList

def countryPath : List Char := "ip.src.country".toList

def knownBotPath : List Char := "cf.client.bot".toList

def headerPath (name : String) : List Char :=
  "http.request.headers[".toList ++ quoted name.toList ++ "][*]".toList

def hostClause (domain : String) : List Char :=
  "http.host eq ".toList ++ quoted domain.toList

def comparison (path : List Char) (word value : List Char) : List Char :=
  path ++ ' ' :: word ++ ' ' :: value

def setOf (items : List (List Char)) : List Char :=
  '\x7b' :: [' '].intercalate items ++ ['\x7d']

def membership (negated : Bool) (path set : List Char) : List Char :=
  (if negated then "not ".toList else []) ++ comparison path "in".toList set

/-- The operand as the one string the operator needs. -/
def scalar (c : Condition) : Except ConditionFault String :=
  match c.operand.text? with
  | some text => .ok text
  | none => .error (.needsText c.operator c.field)

def setItems (c : Condition) : Except ConditionFault (List String) :=
  match c.operand with
  | .flag _ => .error (.needsSet c.operator)
  | operand =>
    if operand.items = [] then .error (.emptySet c.operator c.field) else .ok operand.items

def quotedSet (items : List String) : List Char :=
  setOf (items.map fun item => quoted item.toList)

/-- A set item that needs no quotes: not empty, without blanks, braces and quotes. -/
def isBareToken (s : String) : Bool :=
  !s.isEmpty && s.toList.all fun c =>
    !(isBlank c || c == '\x7b' || c == '\x7d' || c == '"')

def isPathChar (c : Char) : Bool :=
  c.isAlphanum || c == '_' || c == '.'

/-- A field path: not empty, of path characters, without a point at either end. -/
def isFieldPath (path : String) : Bool :=
  !path.isEmpty && path.toList.head? != some '.' && path.toList.getLast? != some '.'
    && path.toList.all isPathChar

def headerClause (c : Condition) : Except ConditionFault (List Char) := do
  let name ← match c.name with
    | some name => if name.isEmpty then .error .headerName else .ok name
    | none => .error .headerName
  let value := quoted (← scalar c).toList
  let test (word : String) := '(' :: comparison (headerPath name) word.toList value ++ [')']
  match c.operator with
  | .eq => .ok ("any".toList ++ test "eq")
  | .ne => .ok ("all".toList ++ test "ne")
  | .contains => .ok ("any".toList ++ test "contains")
  | .notContains => .ok ("not any".toList ++ test "contains")
  | _ => .error (.operator c.operator c.field)

def functionClause (name : String) (path value : List Char) : List Char :=
  name.toList ++ '(' :: path ++ ',' :: ' ' :: value ++ [')']

def textClause (path : List Char) (c : Condition) : Except ConditionFault (List Char) := do
  let text ← scalar c
  let value := quoted text.toList
  match c.operator with
  | .wildcard =>
    if text.toList.contains '"' then .error .wildcardQuote
    else .ok (comparison path "wildcard".toList ('r' :: '"' :: text.toList ++ ['"']))
  | .notContains => .ok ("not ".toList ++ comparison path "contains".toList value)
  | .startsWith => .ok (functionClause "starts_with" path value)
  | .endsWith => .ok (functionClause "ends_with" path value)
  | .eq | .ne | .contains => .ok (comparison path c.operator.token.toList value)
  | .within | .notWithin => .error (.operator c.operator c.field)

def genericClause (path : String) (c : Condition) : Except ConditionFault (List Char) :=
  if !isFieldPath path then .error (.fieldPath path)
  else if path = "host" then .error .hostField
  else textClause ("http.".toList ++ path.toList) c

/-- The clause of a condition that compares with one quoted value or a quoted set. -/
def quotedClause (path : List Char) (single : Bool) (c : Condition) :
    Except ConditionFault (List Char) :=
  match c.operator with
  | .within => do return membership false path (quotedSet (← setItems c))
  | .notWithin => do return membership true path (quotedSet (← setItems c))
  | .eq | .ne =>
    if single then do
      return comparison path c.operator.token.toList (quoted (← scalar c).toList)
    else .error (.operator c.operator c.field)
  | _ => .error (.operator c.operator c.field)

def addressClause (c : Condition) : Except ConditionFault (List Char) :=
  match c.operator with
  | .within => do
    let items ← setItems c
    match items.find? fun item => !isBareToken item with
    | some item => .error (.notToken item)
    | none => return membership false addressPath (setOf (items.map String.toList))
  | _ => .error (.operator c.operator c.field)

def knownBotClause (c : Condition) : Except ConditionFault (List Char) :=
  match c.operator with
  | .eq =>
    let flag? := match c.operand with
      | .flag value => some value
      | .one text => Operand.flagOf? text
      | .many _ => none
    match flag? with
    | some true => .ok knownBotPath
    | some false => .ok ("not ".toList ++ knownBotPath)
    | none => .error .needsFlag
  | _ => .error (.operator c.operator c.field)

def clause (c : Condition) : Except ConditionFault (List Char) :=
  match c.field with
  | .header => headerClause c
  | .fullUri => textClause fullUriPath c
  | .generic path => genericClause path c
  | .fileExtension => quotedClause extensionPath true c
  | .sourceAddress => addressClause c
  | .sourceCountry => quotedClause countryPath false c
  | .knownBot => knownBotClause c
  | .verifiedBotCategory => quotedClause botCategoryPath true c

end EdgePolicy.Expression
