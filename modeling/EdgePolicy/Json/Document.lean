import EdgePolicy.Json.Value

/-
JSON documents as read, before they are interpreted.

A document keeps the members of its objects in the order of the text, repeated names included, so
that whoever interprets it can refuse a repetition.  Parts that are well formed but stand for
nothing are kept as holes: a number out of range, a string with a lone surrogate, and a container
nested more than 127 levels deep.  A hole is refused where it is interpreted and harmless where it
is ignored.

A record is written as an object, and read from an array of its fields in their order as well.
Likewise a word that stands for a variant may be the only name of an object, with `null` under it.
-/

set_option autoImplicit false
set_option relaxedAutoImplicit false

namespace EdgePolicy.Json

/-- A JSON document; `none` and `deep` are holes. -/
inductive Document where
  | null
  | bool (value : Bool)
  | number (value : Option Number)
  | string (value : Option String)
  | array (items : List Document)
  | object (members : List (Option String × Document))
  | deep
deriving Repr, Inhabited

mutual

def Value.document : Value → Document
  | .null => .null
  | .bool b => .bool b
  | .number n => .number (some n)
  | .string s => .string (some s)
  | .array items => .array (itemDocuments items)
  | .object members => .object (memberDocuments members)

def itemDocuments : List Value → List Document
  | [] => []
  | value :: rest => value.document :: itemDocuments rest

def memberDocuments : List (String × Value) → List (Option String × Document)
  | [] => []
  | (name, value) :: rest => (some name, value.document) :: memberDocuments rest

end

mutual

/-- The free JSON value a document stands for, with the members of every object sorted; none when
the document has a hole. -/
def Document.value? : Document → Option Value
  | .null => some .null
  | .bool b => some (.bool b)
  | .number n => n.map .number
  | .string s => s.map .string
  | .array items => (itemValues? items).map .array
  | .object members => (memberValues? members).map .record
  | .deep => none

def itemValues? : List Document → Option (List Value)
  | [] => some []
  | document :: rest => do return (← document.value?) :: (← itemValues? rest)

def memberValues? : List (Option String × Document) → Option (List (String × Value))
  | [] => some []
  | (name, document) :: rest => do return (← name, ← document.value?) :: (← memberValues? rest)

end

namespace Document

def string? : Document → Option String
  | .string s => s
  | _ => none

/-- The word for a variant: a string, or the only name of an object that has `null` under it. -/
def variant? : Document → Option String
  | .string s => s
  | .object [(name, .null)] => name
  | _ => none

def bool? : Document → Option Bool
  | .bool b => some b
  | _ => none

/-- An integer literal of at least `low` and at most `high`. -/
def integer? (low high : Int) : Document → Option Int
  | .number (some (.integer n)) => if low ≤ n ∧ n ≤ high then some n else none
  | _ => none

def natural? (bound : Nat) (document : Document) : Option Nat :=
  (document.integer? 0 bound).map Int.toNat

def items? : Document → Option (List Document)
  | .array items => some items
  | _ => none

def list? {α : Type} (decode : Document → Option α) (document : Document) : Option (List α) := do
  (← document.items?).mapM decode

def strings? (document : Document) : Option (List String) :=
  document.list? string?

def orNull? {α : Type} (decode : Document → Option α) : Document → Option (Option α)
  | .null => some none
  | document => (decode document).map some

end Document

abbrev Fields := List (String × Document)

/-- The members of an object, none when a name has a hole. -/
def Document.fields? : Document → Option Fields
  | .object members => members.mapM fun member => member.1.map (·, member.2)
  | _ => none

/-- The fields of a record: the members of an object, or the items of an array under the names in
their order.  The names at the end that are `spare` may lack an item. -/
def Document.record? (needed spare : List String) : Document → Option Fields
  | .array items =>
    if needed.length ≤ items.length ∧ items.length ≤ (needed ++ spare).length then
      some ((needed ++ spare).zip items)
    else none
  | document => document.fields?

namespace Fields

/-- The only member under one of several spellings of a name, if there is one; two are refused. -/
def only? (fields : Fields) (names : List String) : Option (Option Document) :=
  match fields.filter fun field => names.contains field.1 with
  | [] => some none
  | [field] => some (some field.2)
  | _ => none

def required? {α : Type} (fields : Fields) (name : String) (decode : Document → Option α) :
    Option α := do
  decode (← ← fields.only? [name])

/-- A member under one of several spellings, with a value for when it is missing. -/
def withDefault? {α : Type} (fields : Fields) (names : List String) (default : α)
    (decode : Document → Option α) : Option α := do
  match ← fields.only? names with
  | none => return default
  | some document => decode document

def optional? {α : Type} (fields : Fields) (name : String) (decode : Document → Option α) :
    Option (Option α) :=
  fields.withDefault? [name] none (Document.orNull? decode)

end Fields

end EdgePolicy.Json
