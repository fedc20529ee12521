import Mathlib.Algebra.Group.Nat.Defs
import Mathlib.Data.Nat.Log

/-!
# Shortest decimals

Of the decimals that are read as one number, the shortest is a multiple of the highest power of
ten. There are at most two next to the number, and the nearer one is taken.
-/

namespace KeyCollective.ShortestDecimal

/-- The multiples of a unit on both sides of `x`: the nearer first, or the even one. -/
def neighbours (x unit : Nat) : List Nat :=
  let quotient := x / unit
  let below := quotient * unit
  let above := (quotient + 1) * unit
  if x - below < above - x ∨ x - below = above - x ∧ quotient % 2 = 0 then [below, above]
  else [above, below]

/-- The multiple of the highest power of ten, up to `10 ^ e`, that is read as `x`. -/
def search (reads : Nat → Bool) (x : Nat) : Nat → Nat
  | 0 => x
  | e + 1 => ((neighbours x (10 ^ (e + 1))).find? reads).getD (search reads x e)

def shortest (reads : Nat → Bool) (x : Nat) : Nat := search reads x (Nat.log 10 x)

variable {reads : Nat → Bool} {x : Nat}

theorem reads_search (self : reads x = true) (e : Nat) : reads (search reads x e) = true := by
  induction e with
  | zero => exact self
  | succ e ih =>
    rw [search]
    cases found : (neighbours x (10 ^ (e + 1))).find? reads with
    | none => exact ih
    | some v => exact List.find?_some found

/-- The shortest decimal is read as the number. -/
theorem reads_shortest (self : reads x = true) : reads (shortest reads x) = true :=
  reads_search self _

end KeyCollective.ShortestDecimal
