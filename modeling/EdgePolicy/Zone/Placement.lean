import EdgePolicy.Policy.Category

/-
Where a new rule goes.

Rules of several categories share one ordered container, and the order decides: allowed addresses
come before blocked ones, and countries after blocked addresses.  A category without an anchor, or
whose anchor has no rule yet, goes to the end.
-/

set_option autoImplicit false
set_option relaxedAutoImplicit false

namespace EdgePolicy

/-- A place relative to the rules of a category, for whatever domain. -/
inductive Anchor where
  | beforeFirst (category : Category)
  | afterLast (category : Category)
deriving DecidableEq, Repr

def Category.anchor? : Category → Option Anchor
  | whitelist => some (.beforeFirst blacklist)
  | blacklist => some (.afterLast whitelist)
  | country => some (.afterLast blacklist)
  | _ => none

/-- The rules of a container that belong to a category. -/
def Snapshot.ownedBy (snapshot : Snapshot) (category : Category) : List RemoteRule :=
  snapshot.rules.filter fun rule => category.ownsTag rule.tag

def Anchor.position? (snapshot : Snapshot) : Anchor → Option Position
  | beforeFirst category => (snapshot.ownedBy category).head?.map fun rule => .before rule.id
  | afterLast category => (snapshot.ownedBy category).getLast?.map fun rule => .after rule.id

/-- The place of a new rule of a category in a container; none is the end. -/
def Category.position? (category : Category) (snapshot : Snapshot) : Option Position :=
  category.anchor?.bind (Anchor.position? snapshot)

end EdgePolicy
