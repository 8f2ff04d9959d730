/-
Taking an expected beginning off a text.

`expect?_append` and `expect?_eq_some` say that the text after an expected beginning is exactly the
rest.
-/

set_option autoImplicit false
set_option relaxedAutoImplicit false

namespace EdgePolicy.Text

def expect? : List Char → List Char → Option (List Char)
  | [], cs => some cs
  | want :: wants, c :: cs => if want = c then expect? wants cs else none
  | _ :: _, [] => none

theorem expect?_append (start rest : List Char) : expect? start (start ++ rest) = some rest := by
  induction start with
  | nil => rfl
  | cons c start ih => simp [expect?, ih]

theorem expect?_eq_some {start cs rest : List Char} (h : expect? start cs = some rest) :
    cs = start ++ rest := by
  induction start generalizing cs with
  | nil => simpa [expect?] using h
  | cons want wants ih =>
    cases cs with
    | nil => simp [expect?] at h
    | cons c cs =>
      simp only [expect?] at h
      split at h
      · next same => simp [same, ih h]
      · simp at h

end EdgePolicy.Text
