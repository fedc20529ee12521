import KeyCollective.Quota.Debt
import Mathlib.Order.Iterate
import Mathlib.Tactic.Linarith

/-!
# What a debt does to its contributor

A debt above the contribution is to mean hard jail, one above half of it a warning, and a
debt that is left alone is to be forgiven day by day until nothing is owed.
-/

namespace KeyCollective.Quota

/-- The higher, the harder. -/
def JailStatus.severity : JailStatus → Nat
  | .pristine => 0
  | .softWarning => 1
  | .hardJail => 2

/-- The status derived from a debt and a contribution. -/
def jailStatusOf (debt contributed : Int) (trustedContributor : Bool) : JailStatus :=
  determineJailStatus debt (calculateMultiplierCeiling debt contributed trustedContributor)

/-- The thresholds as they are meant, with the exact ratio. -/
structure ThresholdsHold (debt contributed : Int) (trustedContributor : Bool) : Prop where
  pristine : jailStatusOf debt contributed trustedContributor = .pristine ↔
    (debt / contributed : Rat) ≤ 1 / 2
  softWarning : jailStatusOf debt contributed trustedContributor = .softWarning ↔
    1 / 2 < (debt / contributed : Rat) ∧ (debt / contributed : Rat) ≤ 1
  hardJail : jailStatusOf debt contributed trustedContributor = .hardJail ↔
    1 < (debt / contributed : Rat)
  /-- Less debt and more contribution never give a harder status. -/
  monotone : ∀ less more : Int, 0 ≤ less → less ≤ debt → contributed ≤ more →
    (jailStatusOf less more trustedContributor).severity ≤
      (jailStatusOf debt contributed trustedContributor).severity

theorem jailStatusOf_eq {debt contributed : Int} (owes : 0 ≤ debt) (contributes : 0 < contributed)
    (trustedContributor : Bool) :
    jailStatusOf debt contributed trustedContributor =
      if 101 * contributed ≤ 100 * debt then .hardJail
      else if 51 * contributed ≤ 100 * debt then .softWarning
      else .pristine :=
  determineJailStatus_eq owes contributes trustedContributor

theorem severity_monotone {debt contributed less more : Int} (owes : 0 ≤ less)
    (contributes : 0 < contributed) (repaid : less ≤ debt) (gave : contributed ≤ more)
    (trustedContributor : Bool) :
    (jailStatusOf less more trustedContributor).severity ≤
      (jailStatusOf debt contributed trustedContributor).severity := by
  rw [jailStatusOf_eq owes (by omega), jailStatusOf_eq (by omega) contributes]
  split
  case isTrue hard => rw [if_pos (by omega)]
  case isFalse =>
    split
    case isTrue soft =>
      split
      case isTrue => exact Nat.le_succ 1
      case isFalse => rw [if_pos (by omega)]
    case isFalse => exact Nat.zero_le _

theorem lt_ratio_iff {contributed : Int} (contributes : 0 < contributed) (debt : Int)
    (threshold : Rat) :
    threshold < debt / contributed ↔ threshold * contributed < debt :=
  lt_div_iff₀ (by exact_mod_cast contributes)

theorem ratio_lt_iff {contributed : Int} (contributes : 0 < contributed) (debt : Int)
    (threshold : Rat) :
    debt / contributed < threshold ↔ debt < threshold * contributed :=
  div_lt_iff₀ (by exact_mod_cast contributes)

/-- The thresholds are met exactly at the ratios that are not within a hundredth above one of
them. -/
theorem jail_thresholds_iff (debt contributed : Int) (trustedContributor : Bool)
    (owes : 0 ≤ debt) (contributes : 0 < contributed) :
    ThresholdsHold debt contributed trustedContributor ↔
      ¬(1 / 2 < (debt / contributed : Rat) ∧ (debt / contributed : Rat) < 51 / 100) ∧
        ¬(1 < (debt / contributed : Rat) ∧ (debt / contributed : Rat) < 101 / 100) := by
  have half : 1 / 2 < (debt / contributed : Rat) ↔ contributed < 2 * debt := by
    rw [lt_ratio_iff contributes, div_mul_eq_mul_div, div_lt_iff₀ two_pos, one_mul, mul_comm]
    exact_mod_cast Iff.rfl
  have whole : 1 < (debt / contributed : Rat) ↔ contributed < debt := by
    rw [lt_ratio_iff contributes, one_mul]
    exact_mod_cast Iff.rfl
  have soft : (debt / contributed : Rat) < 51 / 100 ↔ 100 * debt < 51 * contributed := by
    rw [ratio_lt_iff contributes, div_mul_eq_mul_div, lt_div_iff₀ (by norm_num), mul_comm]
    exact_mod_cast Iff.rfl
  have hard : (debt / contributed : Rat) < 101 / 100 ↔ 100 * debt < 101 * contributed := by
    rw [ratio_lt_iff contributes, div_mul_eq_mul_div, lt_div_iff₀ (by norm_num), mul_comm]
    exact_mod_cast Iff.rfl
  have upToHalf : (debt / contributed : Rat) ≤ 1 / 2 ↔ 2 * debt ≤ contributed := by
    rw [← not_lt, half, not_lt]
  have upToWhole : (debt / contributed : Rat) ≤ 1 ↔ debt ≤ contributed := by
    rw [← not_lt, whole, not_lt]
  have status := jailStatusOf_eq owes contributes trustedContributor
  rw [half, whole, soft, hard]
  constructor
  · intro holds
    have pristine := holds.pristine
    have jailed := holds.hardJail
    rw [status, upToHalf] at pristine
    rw [status, whole] at jailed
    constructor
    · rintro ⟨above, below⟩
      rw [if_neg (by omega), if_neg (by omega)] at pristine
      have := pristine.mp rfl
      omega
    · rintro ⟨above, below⟩
      rw [if_neg (by omega)] at jailed
      have := jailed.mpr above
      split at this <;> cases this
  · rintro ⟨nearHalf, nearWhole⟩
    refine ⟨?_, ?_, ?_, fun less more owed repaid gave =>
      severity_monotone owed contributes repaid gave trustedContributor⟩
    · rw [status, upToHalf]
      split_ifs <;> simp <;> omega
    · rw [status, half, upToWhole]
      split_ifs <;> simp <;> omega
    · rw [status, whole]
      split_ifs <;> simp <;> omega

theorem jail_thresholds_two_thirds : ThresholdsHold 2 3 true :=
  (jail_thresholds_iff 2 3 true (by decide) (by decide)).mpr (by norm_num)

/-- Owing a thousandth more than was contributed is not jailed for. -/
theorem jail_threshold_shifted : ¬ ThresholdsHold 1001 1000 false := by
  intro holds
  have warned : jailStatusOf 1001 1000 false = .softWarning := by decide
  have jailed := holds.hardJail.mpr (by norm_num)
  rw [warned] at jailed
  cases jailed

namespace DebtState

variable (state : DebtState)

/-- After so many days on which nothing is accrued. -/
def after (days : Nat) : DebtState := processDailyDebtReset^[days] state

/-- A debt left alone. -/
structure Forgiven : Prop where
  never_increases : ∀ days,
    (state.after (days + 1)).communityDebtMicroCu ≤ (state.after days).communityDebtMicroCu
  decreases : ∀ days, 0 < (state.after days).communityDebtMicroCu →
    (state.after (days + 1)).communityDebtMicroCu < (state.after days).communityDebtMicroCu
  cleared : ∃ days, (state.after days).communityDebtMicroCu = 0
  /-- What a day forgives is the share of the trust held when the day ended. -/
  own_rate : ∀ days, (state.after (days + 1)).communityDebtMicroCu =
    (state.after days).communityDebtMicroCu -
      ⌊(state.after days).communityDebtMicroCu * decay (state.after days).trustedContributor⌋

variable {state}

theorem after_succ (days : Nat) :
    state.after (days + 1) = (state.after days).processDailyDebtReset :=
  Function.iterate_succ_apply' _ _ _

theorem floor_fifth (debt : Int) : ⌊debt * decay false⌋ = debt / 5 := by
  rw [show (debt * decay false : Rat) = debt / (5 : Nat) by norm_num [decay]; ring]
  exact Rat.floor_intCast_div_natCast debt 5

/-- A fifth, rounded down, whoever owes it. -/
theorem reset_debt (owes : 0 ≤ state.communityDebtMicroCu) :
    state.processDailyDebtReset.communityDebtMicroCu =
      state.communityDebtMicroCu - state.communityDebtMicroCu / 5 := by
  have kept : state.processDailyDebtReset.communityDebtMicroCu =
      if state.communityDebtMicroCu = 0 then state.communityDebtMicroCu
      else if state.communityDebtMicroCu / 5 < state.communityDebtMicroCu then
        state.communityDebtMicroCu - state.communityDebtMicroCu / 5
      else 0 := by
    simp only [processDailyDebtReset, updateMultiplierCeiling, floor_fifth]
    split <;> rfl
  rw [kept]
  split
  case isTrue => omega
  case isFalse => rw [if_pos (by omega)]

theorem reset_decreases_iff (owes : 0 ≤ state.communityDebtMicroCu) :
    state.processDailyDebtReset.communityDebtMicroCu < state.communityDebtMicroCu ↔
      5 ≤ state.communityDebtMicroCu := by
  rw [reset_debt owes]
  omega

theorem after_owes (owes : 0 ≤ state.communityDebtMicroCu) (days : Nat) :
    0 ≤ (state.after days).communityDebtMicroCu := by
  induction days with
  | zero => exact owes
  | succ days ih =>
    rw [after_succ, reset_debt ih]
    omega

/-- What a day forgives never takes a debt below four. -/
theorem after_min (owes : 0 ≤ state.communityDebtMicroCu) (days : Nat) :
    min (state.after days).communityDebtMicroCu 4 = min state.communityDebtMicroCu 4 := by
  induction days with
  | zero => rfl
  | succ days ih =>
    have left := after_owes owes days
    rw [after_succ, reset_debt left, ← ih]
    omega

/-- A debt of five and more falls to four, and one of four and less stays. -/
theorem after_settles (owes : 0 ≤ state.communityDebtMicroCu) :
    ∃ days, ∀ later, days ≤ later →
      (state.after later).communityDebtMicroCu = min state.communityDebtMicroCu 4 := by
  have falls (days : Nat) : (state.after days).communityDebtMicroCu ≤
      max 4 (state.communityDebtMicroCu - days) := by
    induction days with
    | zero => exact le_max_of_le_right (by simp [after])
    | succ days ih =>
      have left := after_owes owes days
      rw [after_succ, reset_debt left]
      omega
  refine ⟨state.communityDebtMicroCu.toNat, fun later reached => ?_⟩
  have low := falls later
  have kept := after_min owes later
  omega

end DebtState

/-- A debt left alone is forgiven as it is meant to be exactly when there is none. -/
theorem debt_forgiven_iff (state : DebtState) (owes : 0 ≤ state.communityDebtMicroCu) :
    state.Forgiven ↔ state.communityDebtMicroCu = 0 := by
  constructor
  · intro forgiven
    obtain ⟨days, cleared⟩ := forgiven.cleared
    have kept := DebtState.after_min owes days
    omega
  · intro start
    have clear (days : Nat) : (state.after days).communityDebtMicroCu = 0 := by
      have left := DebtState.after_owes owes days
      have kept := DebtState.after_min owes days
      omega
    refine ⟨fun days => ?_, fun days owing => ?_, ⟨0, start⟩, fun days => ?_⟩
    · rw [clear, clear]
    · rw [clear] at owing
      exact absurd owing (lt_irrefl 0)
    · rw [clear, clear, Int.cast_zero, zero_mul, Int.floor_zero, sub_zero]

/-- A debtor who was trusted until today. -/
def trustedDebtor : DebtState where
  communityDebtMicroCu := 10
  dailyContributedCu := 0
  trustedContributor := true
  consecutiveDebtFreeDays := 31
  multiplierCeiling := 100

theorem debt_forgiven_none : ({ trustedDebtor with communityDebtMicroCu := 0 }).Forgiven ∧
    ¬ ({ trustedDebtor with trustedContributor := false }).Forgiven := by
  constructor
  · exact (debt_forgiven_iff { trustedDebtor with communityDebtMicroCu := 0 } (by decide)).mpr rfl
  · rw [debt_forgiven_iff { trustedDebtor with trustedContributor := false } (by decide)]
    decide

/-- Three tenths of ten are three, and a fifth is forgiven. -/
theorem trusted_debtor_unforgiven : ¬ trustedDebtor.Forgiven := by
  intro forgiven
  have fifth : (trustedDebtor.after 1).communityDebtMicroCu = 8 := by decide +kernel
  have own := forgiven.own_rate 0
  rw [fifth] at own
  exact absurd own (by decide +kernel)

end KeyCollective.Quota
