import Mathlib.Data.List.Lex
import Mathlib.Order.Lattice

/-!
# The lexicographic order of lists

Lists that start with blocks of one length are compared block by block.
-/

namespace KeyCollective.Lexicographic

variable {α : Type*} [LinearOrder α]

/-- Blocks of one length are compared before what follows them. -/
theorem append_lt_append_iff {a b : List α} (width : a.length = b.length) (x y : List α) :
    a ++ x < b ++ y ↔ a < b ∨ a = b ∧ x < y := by
  induction a generalizing b with
  | nil =>
    obtain rfl := List.length_eq_zero_iff.mp width.symm
    simp
  | cons first a ih =>
    cases b with
    | nil => cases width
    | cons second b =>
      have rest := ih (Nat.succ.inj width)
      rw [List.cons_append, List.cons_append, List.cons_lt_cons_iff, List.cons_lt_cons_iff, rest,
        List.cons.injEq]
      tauto

theorem cons_lt_cons_self_iff (first : α) (x y : List α) : first :: x < first :: y ↔ x < y := by
  rw [List.cons_lt_cons_iff]
  simp

/-- The first element decides when it differs. -/
theorem cons_lt_cons_of_lt {first second : α} (lt : first < second) (x y : List α) :
    first :: x < second :: y := List.cons_lt_cons_iff.mpr (Or.inl lt)

end KeyCollective.Lexicographic
