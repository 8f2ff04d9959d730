import Mathlib.Data.List.Forall2

/-
Computations that may fail.

What a sequence, a map or a walk over a list went through when it succeeded, and where it stopped
when it failed.
-/

set_option autoImplicit false
set_option relaxedAutoImplicit false

namespace EdgePolicy

section

variable {α β ε : Type} {first : Except ε α}

theorem bind_eq_ok {next : α → Except ε β} {result : β} :
    (first >>= next) = .ok result ↔ ∃ value, first = .ok value ∧ next value = .ok result := by
  cases first with
  | error fault => simp [bind, Except.bind]
  | ok value => simp [bind, Except.bind]

theorem bind_eq_error {next : α → Except ε β} {fault : ε} :
    (first >>= next) = .error fault ↔
      first = .error fault ∨ ∃ value, first = .ok value ∧ next value = .error fault := by
  cases first with
  | error other => simp [bind, Except.bind]
  | ok value => simp [bind, Except.bind]

theorem map_eq_ok {f : α → β} {result : β} :
    first.map f = .ok result ↔ ∃ value, first = .ok value ∧ f value = result := by
  cases first <;> simp [Except.map]

theorem mapError_eq_ok {δ : Type} {f : ε → δ} {result : α} :
    first.mapError f = .ok result ↔ first = .ok result := by
  cases first <;> simp [Except.mapError]

theorem mapError_eq_error {δ : Type} {f : ε → δ} {fault : δ} :
    first.mapError f = .error fault ↔ ∃ other, first = .error other ∧ f other = fault := by
  cases first <;> simp [Except.mapError]

end

section Lists

variable {α β ε : Type} {f : α → Except ε β} {items : List α} {values : List β}

theorem mapM_ok_iff : (∃ values, items.mapM f = .ok values) ↔
    ∀ item ∈ items, ∃ value, f item = .ok value := by
  induction items with
  | nil => exact iff_of_true ⟨[], rfl⟩ nofun
  | cons item items ih =>
    simp only [List.mapM_cons, List.forall_mem_cons, ← ih, bind_eq_ok]
    constructor
    · rintro ⟨_, value, head, values, tail, -⟩
      exact ⟨⟨value, head⟩, values, tail⟩
    · rintro ⟨⟨value, head⟩, values, tail⟩
      exact ⟨value :: values, value, head, values, tail, rfl⟩

theorem forall₂_of_mapM (mapped : items.mapM f = .ok values) :
    List.Forall₂ (fun item value => f item = .ok value) items values := by
  induction items generalizing values with
  | nil =>
    obtain rfl : [] = values := Except.ok.inj mapped
    exact .nil
  | cons item items ih =>
    rw [List.mapM_cons] at mapped
    obtain ⟨value, head, mapped⟩ := bind_eq_ok.mp mapped
    obtain ⟨others, tail, mapped⟩ := bind_eq_ok.mp mapped
    obtain rfl : value :: others = values := Except.ok.inj mapped
    exact .cons head (ih tail)

theorem exists_of_mem_mapM (mapped : items.mapM f = .ok values) {value : β}
    (member : value ∈ values) : ∃ item ∈ items, f item = .ok value := by
  have related := forall₂_of_mapM mapped
  clear mapped
  induction related with
  | nil => exact nomatch member
  | @cons item _ _ _ head _ ih =>
    rcases List.mem_cons.mp member with rfl | later
    · exact ⟨item, List.mem_cons_self, head⟩
    · obtain ⟨other, within, made⟩ := ih later
      exact ⟨other, List.mem_cons_of_mem item within, made⟩

theorem exists_of_mapM_error {fault : ε} (failed : items.mapM f = .error fault) :
    ∃ item ∈ items, f item = .error fault := by
  induction items with
  | nil => nomatch failed
  | cons item items ih =>
    rw [List.mapM_cons] at failed
    rcases bind_eq_error.mp failed with here | ⟨value, -, later⟩
    · exact ⟨item, List.mem_cons_self, here⟩
    · rcases bind_eq_error.mp later with later | ⟨values, -, ended⟩
      · obtain ⟨other, member, refused⟩ := ih later
        exact ⟨other, List.mem_cons_of_mem item member, refused⟩
      · nomatch ended

theorem mapM_error_of_mem {item : α} (member : item ∈ items) {fault : ε}
    (refused : f item = .error fault) : ∃ first, items.mapM f = .error first := by
  cases worked : items.mapM f with
  | error first => exact ⟨first, rfl⟩
  | ok values =>
    obtain ⟨value, made⟩ := mapM_ok_iff.mp ⟨values, worked⟩ item member
    exact nomatch made.symm.trans refused

end Lists

end EdgePolicy
