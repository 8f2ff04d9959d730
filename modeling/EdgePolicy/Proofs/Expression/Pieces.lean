import Mathlib
import EdgePolicy.Proofs.Expression.RoundTrip

/-
The shape of compiled expressions.

An expression splits into one piece for each group, enclosed in its own parentheses, and the inside
of a piece into one clause for each condition and the clause of the host (`split_compile`).  Quoted
values cannot break that.  Addresses are written bare, and one that carries a parenthesis or is a
keyword can (`not_split_compile`).
-/

set_option autoImplicit false
set_option relaxedAutoImplicit false

namespace EdgePolicy.Expression

/-- A piece of an expression with the shape of a group for a host: parentheses around balanced
clauses, some number of clauses that name no host and behind them the one that names it. -/
def IsPiece (domain : String) (count : Nat) (piece : List Char) : Prop :=
  ∃ inside clauses host, piece = '(' :: inside ++ [')'] ∧ isBalanced inside = true ∧
    split andWord inside = .ok (clauses ++ [host]) ∧ clauses.length = count ∧
    host? host = some domain ∧ ∀ clause ∈ clauses, host? clause = none

/-- The shape of an expression: a piece for each group, or one without conditions. -/
def HasShape (groups : List Group) (domain expression : String) : Prop :=
  ∃ pieces, split orWord expression.toList = .ok pieces ∧ pieces.length = max 1 groups.length ∧
    List.Forall₂ (IsPiece domain)
      (if groups = [] then [0] else groups.map (·.conditions.length)) pieces

private theorem isPiece_writtenGroup {conditions : List Condition} {texts : List (List Char)}
    (writes : WritesAll conditions texts) (domain : String) :
    IsPiece domain conditions.length (writtenGroup domain texts) := by
  have clauses := isClause_append_host writes.isClause domain
  have balanced : isBalanced (joinWith " and ".toList (texts ++ [hostClause domain])) = true :=
    isBalanced_of_crosses (crosses_inside clauses (Nat.zero_le 1))
  have pieces := split_clauses (List.append_ne_nil_of_right_ne_nil _ (List.cons_ne_nil _ _)) clauses
  refine ⟨_, texts, hostClause domain, rfl, balanced, pieces, writes.length_eq.symm,
    host?_hostClause domain, fun clause member => ?_⟩
  -- No clause of a condition names a host.
  clear clauses balanced pieces
  induction writes with
  | nil => exact nomatch member
  | cons head tail ih =>
    rcases List.mem_cons.mp member with rfl | member
    · exact head.1.host?
    · exact ih member

private theorem isPiece_writtenGroups {lists : List (List Condition)}
    {texts : List (List (List Char))} (writes : WritesGroups lists texts) (domain : String) :
    List.Forall₂ (IsPiece domain) (lists.map (·.length)) (texts.map (writtenGroup domain)) := by
  induction writes with
  | nil => exact .nil
  | cons head tail ih => exact .cons (isPiece_writtenGroup head domain) ih

/-- A compiled expression has the shape of its groups, if no address of a set of addresses carries
a parenthesis or is a keyword. -/
theorem split_compile {groups : List Group} {domain expression : String}
    (compiled : compile groups domain = .ok expression)
    (tame : ∀ group ∈ groups, ∀ c ∈ group.conditions, Tame c) :
    HasShape groups domain expression := by
  obtain ⟨texts, writes, shape⟩ := written_of_compileChars (compile_eq_ok.mp compiled) tame
  have shapes := isPiece_writtenGroups writes domain
  by_cases empty : groups = []
  · subst empty
    rw [if_pos rfl] at writes shapes
    have pieces := split_writtenExpression writes domain (List.cons_ne_nil _ _)
    rw [← shape] at pieces
    have count : (texts.map (writtenGroup domain)).length = 1 := shapes.length_eq.symm
    exact ⟨_, pieces, count, shapes⟩
  · rw [if_neg empty] at writes shapes
    have pieces := split_writtenExpression writes domain (by simpa using empty)
    rw [← shape] at pieces
    have some : 0 < groups.length := List.length_pos_iff.mpr empty
    have count : (texts.map (writtenGroup domain)).length = groups.length := by
      simpa using shapes.length_eq.symm
    refine ⟨_, pieces, by omega, ?_⟩
    rw [if_neg empty]
    simpa using shapes

theorem split_compile_sample :
    (compile sampleGroups "a.b" = .ok sampleExpression ∧
      ∀ group ∈ sampleGroups, ∀ c ∈ group.conditions, Tame c) ∧
    HasShape sampleGroups "a.b" sampleExpression := by
  have compiled : compile sampleGroups "a.b" = .ok sampleExpression := by decide +kernel
  exact ⟨⟨compiled, tame_sampleGroups⟩, split_compile compiled tame_sampleGroups⟩

def keywordGroups : List Group :=
  [⟨[.of .sourceAddress .within (.many ["1.1.1.1", "and", "2.2.2.2"])], by simp⟩]

/-- The clauses between the parentheses of the expression of those addresses. -/
def keywordInside : List Char :=
  "ip.src in \x7b1.1.1.1 and 2.2.2.2\x7d and http.host eq \"a.b\"".toList

/-- A keyword among addresses breaks its clause in two. -/
theorem not_split_compile :
    ¬ ∀ groups domain expression, compile groups domain = .ok expression →
      HasShape groups domain expression := by
  intro always
  have compiled : compile keywordGroups "a.b" =
      .ok (String.ofList ('(' :: keywordInside ++ [')'])) := by decide +kernel
  obtain ⟨pieces, whole, -, shapes⟩ := always keywordGroups "a.b" _ compiled
  rw [String.toList_ofList] at whole
  have alone : split orWord ('(' :: keywordInside ++ [')']) =
      .ok ['(' :: keywordInside ++ [')']] := by cbv
  obtain rfl := Except.ok.inj (alone.symm.trans whole)
  obtain ⟨inside, clauses, host, same, -, parts, count, -⟩ := (List.forall₂_cons.mp shapes).1
  have three : (split andWord keywordInside).map List.length = .ok 3 := by cbv
  obtain rfl : keywordInside = inside := (List.append_cancel_right (List.cons.inj same).2)
  rw [parts] at three
  have total : (clauses ++ [host]).length = 3 := Except.ok.inj three
  have single : clauses.length = 1 := count
  rw [List.length_append, List.length_singleton] at total
  omega

end EdgePolicy.Expression
