import EdgePolicy.Json.Document

/-
What the platform does when a rule matches.

Actions outside the catalogue are kept as they stand, so every name is the name of the action it
reads as: `Action.name_ofName`.
-/

set_option autoImplicit false
set_option relaxedAutoImplicit false

namespace EdgePolicy

open Json (Document Value)

inductive Action where
  | block
  | skip
  | log
  | execute
  | setCacheSettings
  | other (name : String)
deriving DecidableEq, Repr, Inhabited

namespace Action

def name : Action → String
  | block => "block"
  | skip => "skip"
  | log => "log"
  | execute => "execute"
  | setCacheSettings => "set_cache_settings"
  | other name => name

def ofName (s : String) : Action :=
  if s = "block" then block
  else if s = "skip" then skip
  else if s = "log" then log
  else if s = "execute" then execute
  else if s = "set_cache_settings" then setCacheSettings
  else other s

theorem name_ofName (s : String) : (ofName s).name = s := by
  unfold ofName
  split
  · next h => exact h.symm
  · split
    · next h => exact h.symm
    · split
      · next h => exact h.symm
      · split
        · next h => exact h.symm
        · split
          · next h => exact h.symm
          · rfl

def json (action : Action) : Value := .string action.name

def ofJson? (document : Document) : Option Action :=
  document.string?.map ofName

end Action

end EdgePolicy
