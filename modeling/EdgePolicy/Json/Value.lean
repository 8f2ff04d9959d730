import EdgePolicy.Json.Number

/-
JSON values.

The members of an object are kept in the order in which they are written.  `Value.record` makes an
object of free JSON, whose members stand in the order of their names, each name once.
-/

set_option autoImplicit false
set_option relaxedAutoImplicit false

namespace EdgePolicy.Json

inductive Value where
  | null
  | bool (value : Bool)
  | number (value : Number)
  | string (value : String)
  | array (items : List Value)
  | object (members : List (String × Value))
deriving Repr, Inhabited

/-- Put a member into a list sorted by name, in place of a member of the same name. -/
def insertMember {α : Type} (name : String) (value : α) : List (String × α) → List (String × α)
  | [] => [(name, value)]
  | (other, old) :: rest =>
    if name = other then (name, value) :: rest
    else if name < other then (name, value) :: (other, old) :: rest
    else (other, old) :: insertMember name value rest

/-- Sort members by name; of members with one name the last counts. -/
def sortMembers {α : Type} (members : List (String × α)) : List (String × α) :=
  members.foldl (fun sorted member => insertMember member.1 member.2 sorted) []

namespace Value

def natural (n : Nat) : Value := .number (.integer n)

def strings (items : List String) : Value := .array (items.map .string)

def optionalString : Option String → Value
  | some s => .string s
  | none => .null

/-- A free object: members sorted by name. -/
def record (members : List (String × Value)) : Value := .object (sortMembers members)

def itself (value : Value) : Value := value

def member? (value : Value) (name : String) : Option Value :=
  match value with
  | .object members => members.lookup name
  | _ => none

def string? : Value → Option String
  | .string s => some s
  | _ => none

end Value

def optionalMember {α : Type} (name : String) (json : α → Value) (value : Option α) :
    List (String × Value) :=
  (value.map fun present => (name, json present)).toList

namespace Value

mutual

/-- Equality of JSON values: exact, except that the two zeros of a binary64 number are equal. -/
def same : Value → Value → Bool
  | .null, .null => true
  | .bool a, .bool b => a == b
  | .number a, .number b => a.same b
  | .string a, .string b => a == b
  | .array as, .array bs => sameItems as bs
  | .object as, .object bs => sameMembers as bs
  | _, _ => false

def sameItems : List Value → List Value → Bool
  | [], [] => true
  | a :: as, b :: bs => same a b && sameItems as bs
  | _, _ => false

def sameMembers : List (String × Value) → List (String × Value) → Bool
  | [], [] => true
  | (m, a) :: as, (n, b) :: bs => m == n && same a b && sameMembers as bs
  | _, _ => false

end

mutual

/-- One value covers another: an object has every member of the other object, with a value that
covers it; anything else is equal. -/
def covers : Value → Value → Bool
  | .object held, .object want => coversMembers held want
  | a, b => same a b

def coversMembers (members : List (String × Value)) : List (String × Value) → Bool
  | [] => true
  | (name, want) :: rest =>
    (match members.lookup name with
      | some held => covers held want
      | none => false) && coversMembers members rest

end

end Value

end EdgePolicy.Json
