import Mathlib

/-!
# Tiers and their limits

A limit is a number or `Infinity`, which is the top element. A limit is
exceeded only when it is finite, as in the source's `limit !== Infinity && ..`.
-/

namespace KeyCollective.Quota

inductive UserTier where
  | admin
  | ultra
  | max
  | builder
  | probationary
  | demo
  | suspended
deriving DecidableEq, Repr

abbrev Limit := WithTop Int

instance : DecidableLE Limit := @WithTop.decidableLE Int _ Int.decLe

instance : DecidableLT Limit := @WithTop.decidableLT Int _ Int.decLt

structure TierLimits where
  tier : UserTier
  rpmLimit : Limit
  rpdLimit : Limit

def tierLimitsMap : UserTier → TierLimits
  | .admin => ⟨.admin, ⊤, ⊤⟩
  | .ultra => ⟨.ultra, ⊤, ⊤⟩
  | .max => ⟨.max, 60, 10000⟩
  | .builder => ⟨.builder, 20, 2000⟩
  | .probationary => ⟨.probationary, 2, 50⟩
  | .demo => ⟨.demo, 20, 2000⟩
  | .suspended => ⟨.suspended, 0, 0⟩

/-- The map is total on the tiers, so the fallback to `suspended` is never taken. -/
def getTierLimits (tier : UserTier) : TierLimits := tierLimitsMap tier

def calculateProjectQuota (tenantTier : UserTier) (projectMaxSubCap : Option Int) : Limit :=
  let tenantLimit := (getTierLimits tenantTier).rpmLimit
  match projectMaxSubCap with
  | some cap => min tenantLimit cap
  | none => tenantLimit

namespace Limit

def exceeded (limit : Limit) (used : Nat) : Bool := limit ≠ ⊤ ∧ limit < (used : Int)

def remaining (limit : Limit) (used : Nat) : Limit := WithTop.map (fun l => max 0 (l - used)) limit

theorem exceeded_iff (limit : Limit) (used : Nat) :
    limit.exceeded used = true ↔ limit < (used : Int) := by
  unfold exceeded
  rw [decide_eq_true_iff, and_iff_right_iff_imp]
  exact fun lt => ne_top_of_lt lt

theorem not_exceeded_iff (limit : Limit) (used : Nat) :
    limit.exceeded used = false ↔ ((used : Int) : Limit) ≤ limit := by
  rw [← Bool.not_eq_true, exceeded_iff, not_lt]

/-- Usage freed on one side is room gained on the other. -/
theorem not_exceeded_iff_freed (limit : Limit) (kept freed : Nat) :
    limit.exceeded kept = false ↔
      (((kept + freed : Nat) : Int) : Limit) ≤ limit + ((freed : Int) : Limit) := by
  rw [not_exceeded_iff]
  induction limit using WithTop.recTopCoe with
  | top => simp
  | coe l =>
    norm_cast
    omega

end Limit

theorem calculateProjectQuota_le_cap (tier : UserTier) (cap : Int) :
    calculateProjectQuota tier (some cap) ≤ cap := min_le_right _ _

theorem calculateProjectQuota_le_tier (tier : UserTier) (cap : Option Int) :
    calculateProjectQuota tier cap ≤ (getTierLimits tier).rpmLimit := by
  cases cap with
  | none => exact le_refl _
  | some cap => exact min_le_left _ _

end KeyCollective.Quota
