import KeyCollective.Host
import KeyCollective.Quota.Debt

/-!
# The standing a contributor is shown

The route reads a contributor's debt and contribution from the table of standings and works
out a jail status of its own; the quota object works one out through the multiplier ceiling.
-/

namespace KeyCollective

open Quota

/-- A row of `contributor_standing`. No column is null, and reading one makes it a number. -/
structure StandingRow where
  communityDebtMicroCu : Int
  dailyContributedCu : Int
  consecutiveDebtFreeDays : Int
  trustedContributor : Int
  multiplierCeiling : Int
  currentMultiplier : Int

structure PoolStanding where
  multiplier : Rat
  multiplierCeiling : Rat
  communityDebtCu : Int
  dailyContributedCu : Int
  trustedContributor : Bool
  jailStatus : JailStatus
  consecutiveDebtFreeDays : Int
deriving DecidableEq

inductive StandingResponse where
  | standing (shown : PoolStanding)
  /-- Status 503. -/
  | error (message : String)
deriving DecidableEq

namespace StandingRow

variable (row : StandingRow)

/-- The status the route works out. The quotient of two numbers comes out above 1, or above a
half, exactly when the fraction is. -/
def shownStatus : JailStatus :=
  let debt := numberOfBigInt row.communityDebtMicroCu
  let contributed := numberOfBigInt row.dailyContributedCu
  if 0 < contributed then
    let ratio : Rat := debt / contributed
    if 1 < ratio then .hardJail
    else if 1 / 2 < ratio then .softWarning
    else .pristine
  else .pristine

/-- The status a quota object derives from the same values. -/
def enforcedStatus : JailStatus :=
  determineJailStatus row.communityDebtMicroCu
    (calculateMultiplierCeiling row.communityDebtMicroCu row.dailyContributedCu
      (row.trustedContributor ≠ 0))

end StandingRow

/-- Nobody has a standing under these. -/
def isNobody (tenantId : String) : Bool :=
  tenantId = "" ∨ tenantId = "anonymous" ∨ tenantId = "default" ∨ tenantId = "guest"

/-- `db` is `none` when the worker has no database bound. -/
def handlePoolStanding (db : Option (String → Option StandingRow)) (tenantId : String) :
    StandingResponse :=
  let blank (multiplier multiplierCeiling : Rat) : StandingResponse :=
    .standing ⟨multiplier, multiplierCeiling, 0, 0, false, .pristine, 0⟩
  if isNobody tenantId then blank 1 1
  else
    match db with
    | none => .error "Database unavailable"
    | some contributorStanding =>
      match contributorStanding tenantId with
      | none => blank (3 / 2) (9 / 2)
      | some row =>
        .standing
          { multiplier := row.currentMultiplier / 100
            multiplierCeiling := row.multiplierCeiling / 100
            communityDebtCu := numberOfBigInt row.communityDebtMicroCu
            dailyContributedCu := numberOfBigInt row.dailyContributedCu
            trustedContributor := row.trustedContributor ≠ 0
            jailStatus := row.shownStatus
            consecutiveDebtFreeDays := row.consecutiveDebtFreeDays }

def StandingResponse.jailStatus? : StandingResponse → Option JailStatus
  | .standing shown => some shown.jailStatus
  | .error _ => none

namespace StandingRow

variable (row : StandingRow)

/-- Nobody owes who has contributed nothing, and the ratio, as the route reads it, is above 1
and above a half exactly when the quota object, which rounds it down to hundredths, finds so. -/
def Clear : Prop :=
  (row.dailyContributedCu = 0 → row.communityDebtMicroCu = 0) ∧
    (0 < row.dailyContributedCu →
      (numberOfBigInt row.dailyContributedCu < numberOfBigInt row.communityDebtMicroCu ↔
        101 * row.dailyContributedCu ≤ 100 * row.communityDebtMicroCu) ∧
      (numberOfBigInt row.dailyContributedCu < 2 * numberOfBigInt row.communityDebtMicroCu ↔
        51 * row.dailyContributedCu ≤ 100 * row.communityDebtMicroCu))

instance : Decidable row.Clear := by
  unfold Clear
  infer_instance

variable {row}

theorem shownStatus_idle (idle : row.dailyContributedCu = 0) : row.shownStatus = .pristine := by
  rw [shownStatus, idle]
  rfl

/-- Without the division. -/
theorem shownStatus_eq (contributes : 0 < row.dailyContributedCu) :
    row.shownStatus =
      if numberOfBigInt row.dailyContributedCu < numberOfBigInt row.communityDebtMicroCu then
        .hardJail
      else if numberOfBigInt row.dailyContributedCu <
          2 * numberOfBigInt row.communityDebtMicroCu then .softWarning
      else .pristine := by
  have contributed := numberOfBigInt_pos contributes
  have positive : (0 : Rat) < numberOfBigInt row.dailyContributedCu := by
    exact_mod_cast contributed
  have whole : (1 : Rat) < numberOfBigInt row.communityDebtMicroCu /
      numberOfBigInt row.dailyContributedCu ↔
        numberOfBigInt row.dailyContributedCu < numberOfBigInt row.communityDebtMicroCu := by
    rw [one_lt_div positive]
    exact_mod_cast Iff.rfl
  have half : (1 / 2 : Rat) < numberOfBigInt row.communityDebtMicroCu /
      numberOfBigInt row.dailyContributedCu ↔
        numberOfBigInt row.dailyContributedCu < 2 * numberOfBigInt row.communityDebtMicroCu := by
    rw [div_lt_div_iff₀ two_pos positive, one_mul, mul_comm]
    exact_mod_cast Iff.rfl
  simp only [shownStatus, if_pos contributed, whole, half]

theorem enforcedStatus_idle (idle : row.dailyContributedCu = 0) :
    row.enforcedStatus = if 0 < row.communityDebtMicroCu then .hardJail else .pristine := by
  unfold enforcedStatus determineJailStatus
  split
  case isTrue owes => simp [calculateMultiplierCeiling, idle, owes]
  case isFalse => rfl

theorem enforcedStatus_eq (owes : 0 ≤ row.communityDebtMicroCu)
    (contributes : 0 < row.dailyContributedCu) :
    row.enforcedStatus =
      if 101 * row.dailyContributedCu ≤ 100 * row.communityDebtMicroCu then .hardJail
      else if 51 * row.dailyContributedCu ≤ 100 * row.communityDebtMicroCu then .softWarning
      else .pristine :=
  determineJailStatus_eq owes contributes _

/-- Amounts that numbers hold exactly are clear unless the ratio is in the hundredth above 1 or
above a half. -/
theorem clear_iff (owes : 0 ≤ row.communityDebtMicroCu)
    (debt : row.communityDebtMicroCu < 2 ^ 53) (contributed : row.dailyContributedCu < 2 ^ 53) :
    row.Clear ↔
      ¬(row.dailyContributedCu = 0 ∧ 0 < row.communityDebtMicroCu) ∧
        ¬(row.dailyContributedCu < row.communityDebtMicroCu ∧
          100 * row.communityDebtMicroCu < 101 * row.dailyContributedCu) ∧
        ¬(row.dailyContributedCu < 2 * row.communityDebtMicroCu ∧
          100 * row.communityDebtMicroCu < 51 * row.dailyContributedCu) := by
  unfold Clear
  by_cases contributes : 0 < row.dailyContributedCu
  · rw [numberOfBigInt_of_lt owes debt, numberOfBigInt_of_lt contributes.le contributed]
    simp only [contributes, forall_const]
    omega
  · simp only [contributes, false_implies, and_true]
    omega

end StandingRow

/-- The status a contributor is shown is the one the quota object derives exactly when the
debt is clear. -/
theorem standing_agrees_iff (contributorStanding : String → Option StandingRow)
    (tenantId : String) (row : StandingRow) (somebody : isNobody tenantId = false)
    (found : contributorStanding tenantId = some row) (owes : 0 ≤ row.communityDebtMicroCu)
    (contributes : 0 ≤ row.dailyContributedCu) :
    (handlePoolStanding (some contributorStanding) tenantId).jailStatus? =
        some row.enforcedStatus ↔
      row.Clear := by
  have shown : (handlePoolStanding (some contributorStanding) tenantId).jailStatus? =
      some row.shownStatus := by
    simp only [handlePoolStanding, somebody, Bool.false_eq_true, ↓reduceIte, found,
      StandingResponse.jailStatus?]
  rw [shown, Option.some_inj]
  unfold StandingRow.Clear
  by_cases idle : row.dailyContributedCu = 0
  · rw [StandingRow.shownStatus_idle idle, StandingRow.enforcedStatus_idle idle]
    split <;> simp <;> omega
  · have positive : 0 < row.dailyContributedCu := by omega
    have number := numberOfBigInt_pos positive
    rw [StandingRow.shownStatus_eq positive, StandingRow.enforcedStatus_eq owes positive]
    simp only [idle, false_implies, true_and, positive, forall_const]
    split_ifs <;> simp [*]
    omega

/-- A contributor who owes and has contributed nothing today. -/
def idleDebtor : StandingRow where
  communityDebtMicroCu := 1
  dailyContributedCu := 0
  consecutiveDebtFreeDays := 0
  trustedContributor := 0
  multiplierCeiling := 100
  currentMultiplier := 100

/-- A contributor who owes more than was contributed today. -/
def overdrawn : StandingRow := { idleDebtor with communityDebtMicroCu := 9, dailyContributedCu := 4 }

theorem standing_agrees_overdrawn :
    (handlePoolStanding (some fun _ => some overdrawn) "acme").jailStatus? =
      some overdrawn.enforcedStatus :=
  (standing_agrees_iff (fun _ => some overdrawn) "acme" overdrawn (by decide) rfl (by decide)
    (by decide)).mpr (by decide)

theorem standing_disagrees :
    (handlePoolStanding (some fun _ => some idleDebtor) "acme").jailStatus? = some .pristine ∧
      idleDebtor.enforcedStatus = .hardJail := by
  decide

end KeyCollective
