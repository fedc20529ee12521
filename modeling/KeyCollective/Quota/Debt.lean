import Mathlib.Algebra.Order.Ring.Int
import Mathlib.Data.Rat.Floor
import Mathlib.Tactic.NormNum

/-!
# Communal debt

Debt and contribution are counted in micro compute units. The daily decay is a share of the
debt, rounded down. The source multiplies in floating point, which yields the same for debts below
6755399441055744, that is 3 * 2 ^ 51; there the product is rounded up to the next integer.
-/

namespace KeyCollective.Quota

structure DebtState where
  communityDebtMicroCu : Int
  dailyContributedCu : Int
  trustedContributor : Bool
  consecutiveDebtFreeDays : Int
  multiplierCeiling : Int
deriving DecidableEq, Repr

def calculateMultiplierCeiling (communityDebtMicroCu dailyContributedCu : Int)
    (trustedContributor : Bool) : Int :=
  let ratio :=
    if 0 < dailyContributedCu then (communityDebtMicroCu * 100).tdiv dailyContributedCu
    else if 0 < communityDebtMicroCu then 1000 else 0
  if 100 < ratio then 100
  else if 50 < ratio then 150
  else if trustedContributor then 500 else 450

inductive JailStatus where
  | pristine
  | softWarning
  | hardJail
deriving DecidableEq, Repr

def determineJailStatus (communityDebtMicroCu multiplierCeiling : Int) : JailStatus :=
  if 0 < communityDebtMicroCu then
    if multiplierCeiling = 100 then .hardJail
    else if multiplierCeiling = 150 then .softWarning
    else .pristine
  else .pristine

/-- The quotient is rounded down to hundredths, so it is above a hundred, or above fifty, from
the next hundredth on. -/
theorem determineJailStatus_eq {communityDebtMicroCu dailyContributedCu : Int}
    (owes : 0 ≤ communityDebtMicroCu) (contributes : 0 < dailyContributedCu)
    (trustedContributor : Bool) :
    determineJailStatus communityDebtMicroCu
        (calculateMultiplierCeiling communityDebtMicroCu dailyContributedCu trustedContributor) =
      if 101 * dailyContributedCu ≤ 100 * communityDebtMicroCu then .hardJail
      else if 51 * dailyContributedCu ≤ 100 * communityDebtMicroCu then .softWarning
      else .pristine := by
  have percent (n : Int) : n < (communityDebtMicroCu * 100).tdiv dailyContributedCu ↔
      (n + 1) * dailyContributedCu ≤ 100 * communityDebtMicroCu := by
    rw [Int.tdiv_eq_ediv_of_nonneg (by omega), Int.lt_iff_add_one_le,
      Int.le_ediv_iff_mul_le contributes, mul_comm communityDebtMicroCu]
  have hard := percent 100
  have soft := percent 50
  norm_num at hard soft
  simp only [determineJailStatus, calculateMultiplierCeiling, if_pos contributes, hard, soft]
  split
  case isTrue =>
    split
    · simp
    · split
      · simp
      · split <;> simp
  case isFalse idle => rw [if_neg (by omega), if_neg (by omega)]

/-- The share of a debt that is forgiven at the end of a day. -/
def decay (trustedContributor : Bool) : Rat := if trustedContributor then 3 / 10 else 1 / 5

namespace DebtState

def updateMultiplierCeiling (debt : DebtState) : DebtState :=
  { debt with
    multiplierCeiling := calculateMultiplierCeiling debt.communityDebtMicroCu
      debt.dailyContributedCu debt.trustedContributor }

def accrue (debt : DebtState) (cuWeight : Int) : DebtState :=
  { debt with
    communityDebtMicroCu := debt.communityDebtMicroCu + cuWeight }.updateMultiplierCeiling

def decrement (debt : DebtState) (cuWeight : Int) : DebtState :=
  { debt with
    communityDebtMicroCu :=
      if cuWeight < debt.communityDebtMicroCu then debt.communityDebtMicroCu - cuWeight else 0
    dailyContributedCu := debt.dailyContributedCu + cuWeight }.updateMultiplierCeiling

def processDailyDebtReset (state : DebtState) : DebtState :=
  let reset : DebtState :=
    if state.communityDebtMicroCu = 0 then
      let days := state.consecutiveDebtFreeDays + 1
      { state with
        consecutiveDebtFreeDays := days
        trustedContributor := if 30 < days then true else state.trustedContributor }
    else
      let trustedContributor := false
      -- The decay is looked up after the trust is gone.
      let decayAmount := ⌊state.communityDebtMicroCu * decay trustedContributor⌋
      { state with
        consecutiveDebtFreeDays := 0
        trustedContributor := trustedContributor
        communityDebtMicroCu :=
          if decayAmount < state.communityDebtMicroCu then
            state.communityDebtMicroCu - decayAmount
          else 0 }
  { reset with dailyContributedCu := 0 }.updateMultiplierCeiling

end DebtState

end KeyCollective.Quota
