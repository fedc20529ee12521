import Mathlib.Algebra.Order.Field.Basic
import Mathlib.Data.Finset.Max
import Mathlib.Tactic.Linarith
import Mathlib.Tactic.Positivity
import Mathlib.Tactic.Ring

/-!
# Moving averages

An exponentially weighted mean and its variance, updated with one sample at a time. The mean
stays within the samples, and the variance within the square of their range.
-/

namespace MovingAverage

variable {K : Type} [Field K] [LinearOrder K] [IsStrictOrderedRing K]

structure Moments (K : Type) where
  mean : K
  variance : K
deriving DecidableEq

def start (x : K) : Moments K := ⟨x, 0⟩

def step (alpha : K) (m : Moments K) (x : K) : Moments K where
  mean := m.mean + alpha * (x - m.mean)
  variance := (1 - alpha) * (m.variance + alpha * (x - m.mean) * (x - m.mean))

def run (alpha first : K) (later : List K) : Moments K := later.foldl (step alpha) (start first)

/-- Moments that samples of a range may have. -/
structure Within (lo hi : K) (m : Moments K) : Prop where
  lower : lo ≤ m.mean
  upper : m.mean ≤ hi
  nonneg : 0 ≤ m.variance
  spread : m.variance ≤ (hi - lo) ^ 2

variable {alpha lo hi : K} {m : Moments K} {x : K}

theorem Within.start (above : lo ≤ x) (below : x ≤ hi) : Within lo hi (start x) where
  lower := above
  upper := below
  nonneg := le_rfl
  spread := sq_nonneg (hi - lo)

theorem Within.step (within : Within lo hi m) (some_weight : 0 ≤ alpha) (weight_le : alpha ≤ 1)
    (above : lo ≤ x) (below : x ≤ hi) : Within lo hi (step alpha m x) := by
  obtain ⟨lower, upper, nonneg, spread⟩ := within
  have rest : 0 ≤ 1 - alpha := sub_nonneg.mpr weight_le
  have mixed : m.mean + alpha * (x - m.mean) = (1 - alpha) * m.mean + alpha * x := by ring
  have squared : alpha * (x - m.mean) * (x - m.mean) = alpha * (x - m.mean) ^ 2 := by ring
  have distance : (x - m.mean) ^ 2 ≤ (hi - lo) ^ 2 := by
    refine sq_le_sq.mpr ?_
    rw [abs_of_nonneg (sub_nonneg.mpr (lower.trans upper))]
    exact abs_le.mpr ⟨by linarith, by linarith⟩
  refine ⟨?_, ?_, ?_, ?_⟩
  · change lo ≤ m.mean + alpha * (x - m.mean)
    calc lo = (1 - alpha) * lo + alpha * lo := by ring
      _ ≤ (1 - alpha) * m.mean + alpha * x :=
        add_le_add (mul_le_mul_of_nonneg_left lower rest)
          (mul_le_mul_of_nonneg_left above some_weight)
      _ = m.mean + alpha * (x - m.mean) := mixed.symm
  · change m.mean + alpha * (x - m.mean) ≤ hi
    calc m.mean + alpha * (x - m.mean) = (1 - alpha) * m.mean + alpha * x := mixed
      _ ≤ (1 - alpha) * hi + alpha * hi :=
        add_le_add (mul_le_mul_of_nonneg_left upper rest)
          (mul_le_mul_of_nonneg_left below some_weight)
      _ = hi := by ring
  · change 0 ≤ (1 - alpha) * (m.variance + alpha * (x - m.mean) * (x - m.mean))
    rw [squared]
    exact mul_nonneg rest (add_nonneg nonneg (mul_nonneg some_weight (sq_nonneg _)))
  · change (1 - alpha) * (m.variance + alpha * (x - m.mean) * (x - m.mean)) ≤ (hi - lo) ^ 2
    rw [squared]
    calc (1 - alpha) * (m.variance + alpha * (x - m.mean) ^ 2)
        ≤ (1 - alpha) * ((hi - lo) ^ 2 + alpha * (hi - lo) ^ 2) :=
          mul_le_mul_of_nonneg_left
            (add_le_add spread (mul_le_mul_of_nonneg_left distance some_weight)) rest
      _ = (hi - lo) ^ 2 - alpha ^ 2 * (hi - lo) ^ 2 := by ring
      _ ≤ (hi - lo) ^ 2 := sub_le_self _ (by positivity)

theorem within_run (some_weight : 0 ≤ alpha) (weight_le : alpha ≤ 1) {first : K} {later : List K}
    (range : ∀ y ∈ first :: later, lo ≤ y ∧ y ≤ hi) : Within lo hi (run alpha first later) := by
  have start := range first List.mem_cons_self
  have from_start : ∀ (rest : List K) (m : Moments K), Within lo hi m →
      (∀ y ∈ rest, lo ≤ y ∧ y ≤ hi) → Within lo hi (rest.foldl (MovingAverage.step alpha) m) := by
    intro rest
    induction rest with
    | nil => exact fun m within _ => within
    | cons y rest ih =>
      intro m within range
      obtain ⟨above, below⟩ := range y List.mem_cons_self
      exact ih _ (within.step some_weight weight_le above below)
        fun z mem => range z (List.mem_cons_of_mem y mem)
  exact from_start later _ (.start start.1 start.2) fun y mem =>
    range y (List.mem_cons_of_mem first mem)

/-- Samples have a least and a greatest among them, which are furthest apart. -/
theorem exists_range (first : K) (later : List K) :
    ∃ lo hi, IsLeast {y | y ∈ first :: later} lo ∧ IsGreatest {y | y ∈ first :: later} hi ∧
      IsGreatest {d | ∃ y ∈ first :: later, ∃ z ∈ first :: later, d = |y - z|} (hi - lo) := by
  have some_sample : (first :: later).toFinset.Nonempty :=
    ⟨first, List.mem_toFinset.mpr List.mem_cons_self⟩
  have least := (first :: later).toFinset.isLeast_min' some_sample
  have greatest := (first :: later).toFinset.isGreatest_max' some_sample
  rw [List.coe_toFinset] at least greatest
  generalize (first :: later).toFinset.min' some_sample = lo at least
  generalize (first :: later).toFinset.max' some_sample = hi at greatest
  refine ⟨lo, hi, least, greatest, ⟨hi, greatest.1, lo, least.1, ?_⟩, ?_⟩
  · rw [abs_of_nonneg (sub_nonneg.mpr (greatest.2 least.1))]
  · rintro d ⟨y, y_mem, z, z_mem, rfl⟩
    have bounds := And.intro (least.2 y_mem) (least.2 z_mem)
    have tops := And.intro (greatest.2 y_mem) (greatest.2 z_mem)
    exact abs_le.mpr ⟨by linarith, by linarith⟩

end MovingAverage
