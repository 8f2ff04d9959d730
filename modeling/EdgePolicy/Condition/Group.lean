import EdgePolicy.Condition.Basic

/-
Groups of conditions, and flat lists of joined conditions.

A group is a list of conditions that must all hold and is never empty.  A flat list says the same
by the joins of its conditions: a condition joined by `or` opens a new group.  `partition` reads a
flat list and `flatten` writes one; both give every condition its canonical join.
-/

set_option autoImplicit false
set_option relaxedAutoImplicit false

namespace EdgePolicy

/-- Conditions that must all hold; at least one. -/
structure Group where
  conditions : List Condition
  nonempty : conditions ≠ []
deriving DecidableEq, Repr

namespace Group

def ofList? (conditions : List Condition) : Option Group :=
  if nonempty : conditions ≠ [] then some ⟨conditions, nonempty⟩ else none

def joins (leading : Join) : List Condition → List Condition
  | [] => []
  | first :: rest => first.joined leading :: rest.map (·.joined .and)

theorem joins_ne_nil {leading : Join} {conditions : List Condition} (nonempty : conditions ≠ []) :
    joins leading conditions ≠ [] := by
  cases conditions with
  | nil => exact absurd rfl nonempty
  | cons first rest => simp [joins]

def tagged (group : Group) (leading : Join) : Group :=
  ⟨joins leading group.conditions, joins_ne_nil group.nonempty⟩

def leadingJoin (index : Nat) : Join := if index = 0 then .none else .or

/-- Cut a flat list before every condition joined by `or`. -/
def segments (conditions : List Condition) : List (List Condition) :=
  conditions.splitBy fun _ next => next.join != .or

/-- Groups with canonical joins: the first condition overall joins by `none`, the first one of every
later group by `or`, and every other one by `and`. -/
def canonical (groups : List Group) : List Group :=
  groups.mapIdx fun index group => group.tagged (leadingJoin index)

/-- The groups of a flat list, with canonical joins. -/
def partition (conditions : List Condition) : List Group :=
  canonical ((segments conditions).filterMap ofList?)

/-- The flat list of some groups, with canonical joins. -/
def flatten (groups : List Group) : List Condition :=
  (canonical groups).flatMap (·.conditions)

theorem ofList?_conditions (group : Group) : ofList? group.conditions = some group := by
  simp [ofList?, group.nonempty]

end Group

end EdgePolicy
