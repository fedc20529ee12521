import KeyCollective.Lib.Rounding
import KeyCollective.Number

/-!
# Products of numbers

A product is rounded to a double. Where a factor is at least one, rounding does not take the
product below a count.
-/

namespace KeyCollective.Number

/-- The double nearest to a rational, halves to even. -/
def ofRat (value : ℚ) : Number :=
  let rounded := Rounding.nearest 53 (-1074) value
  if |rounded| < (2 ^ 1024 : ℕ) then .finite rounded
  else if 0 < value then .infinity
  else .negInfinity

def neg : Number → Number
  | .finite value => .finite (-value)
  | .infinity => .negInfinity
  | .negInfinity => .infinity
  | .nan => .nan

/-- An infinite number with the sign of another one, and none for zero. -/
def infinityOf (x : Number) : Number :=
  if x.isPositive then .infinity else if x.below 0 then .negInfinity else .nan

/-- `x * y`. -/
def mul : Number → Number → Number
  | .finite x, .finite y => ofRat (x * y)
  | .infinity, y => y.infinityOf
  | .negInfinity, y => y.infinityOf.neg
  | x, .infinity => x.infinityOf
  | x, .negInfinity => x.infinityOf.neg
  | .nan, _ | _, .nan => .nan

/-- `Math.ceil`. -/
def ceil : Number → Number
  | .finite value => .finite ⌈value⌉
  | x => x

variable {x y : Number} {bound : ℚ}

theorem atLeast_zero (positive : x.isPositive = true) : x.atLeast 0 = true := by
  cases x with
  | finite value => exact decide_eq_true (of_decide_eq_true positive).le
  | infinity => rfl
  | negInfinity => cases positive
  | nan => cases positive

theorem isPositive_of_atLeast (low : x.atLeast bound = true) (above : 0 < bound) :
    x.isPositive = true := by
  cases x with
  | finite value => exact decide_eq_true (above.trans_le (of_decide_eq_true low))
  | infinity => rfl
  | negInfinity => cases low
  | nan => cases low

theorem add_atLeast (first : x.atLeast bound = true) (second : y.atLeast 0 = true) :
    (x.add y).atLeast bound = true := by
  cases x with
  | finite x =>
    cases y with
    | finite y =>
      have low : bound ≤ x := of_decide_eq_true first
      have natural : 0 ≤ y := of_decide_eq_true second
      exact decide_eq_true (by linarith)
    | infinity => rfl
    | negInfinity => cases second
    | nan => cases second
  | infinity =>
    cases y with
    | finite y => rfl
    | infinity => rfl
    | negInfinity => cases second
    | nan => cases second
  | negInfinity => cases first
  | nan => cases first

theorem trunc_atLeast (natural : x.atLeast 0 = true) : x.trunc.atLeast 0 = true := by
  cases x with
  | finite value =>
    have whole : 0 ≤ value.num.tdiv value.den :=
      Int.tdiv_nonneg (Rat.num_nonneg.mpr (of_decide_eq_true natural)) (Int.natCast_nonneg _)
    exact decide_eq_true (by exact_mod_cast whole)
  | infinity => rfl
  | negInfinity => cases natural
  | nan => cases natural

theorem ceil_atLeast (low : x.atLeast bound = true) : x.ceil.atLeast bound = true := by
  cases x with
  | finite value =>
    have under : bound ≤ value := of_decide_eq_true low
    exact decide_eq_true (under.trans (Int.le_ceil value))
  | infinity => rfl
  | negInfinity => cases low
  | nan => cases low

theorem ofRat_atLeast {n : ℕ} (bits : n ≤ 2 ^ 53) {value : ℚ} (le : (n : ℚ) ≤ value)
    (positive : 0 < n) : (ofRat value).atLeast n = true := by
  have rounded : (n : ℚ) ≤ Rounding.nearest 53 (-1074) value :=
    Rounding.natCast_le_nearest bits (by norm_num) (by norm_num) le
  have above : 0 < value := lt_of_lt_of_le (by exact_mod_cast positive) le
  simp only [ofRat]
  split
  · exact decide_eq_true rounded
  · rfl

/-- A factor of at least one leaves a product above a count. -/
theorem mul_atLeast {n : ℕ} (bits : n ≤ 2 ^ 53) (positive : 0 < n) (first : x.atLeast n = true)
    (second : y.atLeast 1 = true) : (x.mul y).atLeast n = true := by
  have some_count : (0 : ℚ) < n := by exact_mod_cast positive
  cases x with
  | finite x =>
    have low : (n : ℚ) ≤ x := of_decide_eq_true first
    cases y with
    | finite y =>
      have one : 1 ≤ y := of_decide_eq_true second
      exact ofRat_atLeast bits (by nlinarith) positive
    | infinity =>
      have above : (Number.finite x).isPositive = true := isPositive_of_atLeast first some_count
      change (Number.finite x).infinityOf.atLeast n = true
      rw [infinityOf, if_pos above]
      rfl
    | negInfinity => cases second
    | nan => cases second
  | infinity =>
    rw [mul, infinityOf, if_pos (isPositive_of_atLeast second one_pos)]
    rfl
  | negInfinity => cases first
  | nan => cases first

/-! ## Whole numbers -/

/-- An integer, or no finite number. -/
def IsWhole : Number → Prop
  | .finite value => ∃ n : ℤ, value = n
  | _ => True

theorem isWhole_trunc (x : Number) : x.trunc.IsWhole := by
  cases x with
  | finite value => exact ⟨_, rfl⟩
  | infinity => trivial
  | negInfinity => trivial
  | nan => trivial

theorem isWhole_add (first : x.IsWhole) (second : y.IsWhole) : (x.add y).IsWhole := by
  cases x <;> cases y <;> try trivial
  case finite.finite =>
    obtain ⟨m, rfl⟩ := first
    obtain ⟨n, rfl⟩ := second
    exact ⟨m + n, by push_cast; rfl⟩

theorem ceil_of_isWhole (whole : x.IsWhole) : x.ceil = x := by
  cases x with
  | finite value =>
    obtain ⟨n, rfl⟩ := whole
    exact congrArg Number.finite (by rw [Int.ceil_intCast])
  | infinity => rfl
  | negInfinity => rfl
  | nan => rfl

theorem trunc_of_isWhole (whole : x.IsWhole) : x.trunc = x := by
  cases x with
  | finite value =>
    obtain ⟨n, rfl⟩ := whole
    exact congrArg Number.finite (by simp)
  | infinity => rfl
  | negInfinity => rfl
  | nan => rfl

theorem max0_of_atLeast (natural : x.atLeast 0 = true) : x.max0 = x := by
  cases x with
  | finite value => exact congrArg Number.finite (max_eq_right (of_decide_eq_true natural))
  | infinity => rfl
  | negInfinity => cases natural
  | nan => cases natural

/-- A number that is at least zero is compared like any two of an order. -/
theorem atMost_eq_not_above (natural : x.atLeast 0 = true) (bound : ℚ) :
    x.atMost bound = !x.above bound := by
  cases x with
  | finite value =>
    rw [atMost, above, ← decide_not]
    exact decide_eq_decide.mpr not_lt.symm
  | infinity => rfl
  | negInfinity => cases natural
  | nan => cases natural

theorem above_add (natural : y.atLeast 0 = true) (above : x.above bound = true) :
    (x.add y).above bound = true := by
  cases x with
  | finite x =>
    cases y with
    | finite y =>
      have high : bound < x := of_decide_eq_true above
      have low : 0 ≤ y := of_decide_eq_true natural
      exact decide_eq_true (by linarith)
    | infinity => rfl
    | negInfinity => cases natural
    | nan => cases natural
  | infinity =>
    cases y with
    | finite y => rfl
    | infinity => rfl
    | negInfinity => cases natural
    | nan => cases natural
  | negInfinity => cases above
  | nan => cases above

/-- A number above a bound that is not negative is positive. -/
theorem isPositive_of_above (above : x.above bound = true) (natural : 0 ≤ bound) :
    x.isPositive = true := by
  cases x with
  | finite value => exact decide_eq_true (natural.trans_lt (of_decide_eq_true above))
  | infinity => rfl
  | negInfinity => cases above
  | nan => cases above

end KeyCollective.Number
