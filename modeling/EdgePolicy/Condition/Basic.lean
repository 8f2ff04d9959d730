import EdgePolicy.Text.Blank

/-
Conditions: one clause of a rule expression in structured form.

A condition compares a request field with an operand.  In a flat list every condition also says how
it joins the condition before it.  `Field.ofName_name` and `Operator.ofToken_token` state that the
written names of fields and operators read back; a generic field with the name of a catalogued
field is the one that does not.
-/

set_option autoImplicit false
set_option relaxedAutoImplicit false

namespace EdgePolicy

/-- The request attribute a condition inspects.  `generic` holds any other `http.` path, without
that beginning. -/
inductive Field where
  | header
  | fullUri
  | fileExtension
  | knownBot
  | verifiedBotCategory
  | sourceAddress
  | sourceCountry
  | generic (path : String)
deriving DecidableEq, Repr, Inhabited

namespace Field

def name : Field → String
  | header => "header"
  | fullUri => "full_uri"
  | fileExtension => "file_extension"
  | knownBot => "bot_known"
  | verifiedBotCategory => "bot_verified_category"
  | sourceAddress => "ip_src"
  | sourceCountry => "ip_src_country"
  | generic path => path

/-- The field with a written name; every name outside the catalogue is generic. -/
def ofName (s : String) : Field :=
  if s = "header" then header
  else if s = "full_uri" then fullUri
  else if s = "file_extension" then fileExtension
  else if s = "bot_known" then knownBot
  else if s = "bot_verified_category" then verifiedBotCategory
  else if s = "ip_src" then sourceAddress
  else if s = "ip_src_country" then sourceCountry
  else generic s

def catalogue : List String :=
  ["header", "full_uri", "file_extension", "bot_known", "bot_verified_category", "ip_src",
    "ip_src_country"]

/-- A field is what its name reads back as, unless it is generic under a catalogued name. -/
theorem ofName_name {field : Field} (plain : ∀ path, field = generic path → path ∉ catalogue) :
    ofName field.name = field := by
  cases field with
  | generic path =>
    have fresh := plain path rfl
    simp only [catalogue, List.mem_cons, not_or] at fresh
    simp [name, ofName, fresh]
  | _ => simp [name, ofName]

end Field

inductive Operator where
  | eq
  | ne
  | contains
  | notContains
  | within
  | notWithin
  | wildcard
  | startsWith
  | endsWith
deriving DecidableEq, Repr, Inhabited

namespace Operator

def token : Operator → String
  | eq => "eq"
  | ne => "ne"
  | contains => "contains"
  | notContains => "not_contains"
  | within => "in"
  | notWithin => "not_in"
  | wildcard => "wildcard"
  | startsWith => "starts_with"
  | endsWith => "ends_with"

def all : List Operator :=
  [eq, ne, contains, notContains, within, notWithin, wildcard, startsWith, endsWith]

def ofToken? (s : String) : Option Operator :=
  if s = "not in" then some notWithin else all.find? fun operator => operator.token = s

def takesSet : Operator → Bool
  | within | notWithin => true
  | _ => false

theorem ofToken_token (operator : Operator) : ofToken? operator.token = some operator := by
  cases operator <;> rfl

end Operator

/-- The right-hand side of a condition.  Sets are `many`, bot flags are `flag`, everything else is
`one`; a set may also arrive as one string joined by commas. -/
inductive Operand where
  | flag (value : Bool)
  | one (text : String)
  | many (texts : List String)
deriving DecidableEq, Repr, Inhabited

namespace Operand

/-- The trimmed pieces between commas that are not empty. -/
def commaItems (s : String) : List String :=
  ((s.toList.splitOn ',').map Text.trimChars).filterMap fun piece =>
    if piece.isEmpty then none else some (String.ofList piece)

def items : Operand → List String
  | flag value => [if value then "true" else "false"]
  | one text => commaItems text
  | many texts => texts

def text? : Operand → Option String
  | one text => some text
  | _ => none

/-- The truth value a text stands for. -/
def flagOf? (text : String) : Option Bool :=
  if text = "true" then some true else if text = "false" then some false else none

/-- The canonical operand of a field and operator: a string under a set operator becomes its items,
and a truth value written as a string becomes a flag under the known-bot field. -/
def canonical (field : Field) (operator : Operator) : Operand → Operand
  | one text =>
    if operator.takesSet then many (commaItems text)
    else if field = .knownBot then ((flagOf? text).map flag).getD (one text)
    else one text
  | operand => operand

end Operand

/-- How a condition joins the one before it in a flat list. -/
inductive Join where
  | none
  | and
  | or
deriving DecidableEq, Repr, Inhabited

/-- One clause of a rule expression.  The name is the header name of a header condition. -/
structure Condition where
  field : Field
  name : Option String
  operator : Operator
  operand : Operand
  join : Join
deriving DecidableEq, Repr, Inhabited

namespace Condition

/-- A condition on a field, its operand in canonical form. -/
def of (field : Field) (operator : Operator) (operand : Operand) : Condition :=
  { field, name := none, operator, operand := operand.canonical field operator, join := .none }

def onHeader (name : String) (operator : Operator) (value : String) : Condition :=
  { of .header operator (.one value) with name := some name }

def joined (condition : Condition) (join : Join) : Condition := { condition with join }

end Condition

end EdgePolicy
