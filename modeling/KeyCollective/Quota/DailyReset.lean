import KeyCollective.Lib.Transition
import KeyCollective.Quota.Admission
import KeyCollective.Quota.Standing

/-!
# The standing after a daily reset

A day starts without a contribution, and a debtor without a contribution is in hard jail. So a
reset, which lessens every debt, jails each debtor that was not.
-/

namespace KeyCollective.Quota

/-- No amount is negative, and a debt is held against the contribution. -/
structure DebtState.Weighed (debt : DebtState) : Prop where
  owes : 0 ≤ debt.communityDebtMicroCu
  contributes : 0 ≤ debt.dailyContributedCu
  ceiling : 0 < debt.communityDebtMicroCu → debt.multiplierCeiling =
    calculateMultiplierCeiling debt.communityDebtMicroCu debt.dailyContributedCu
      debt.trustedContributor

/-- What a debtor owes is less than a hundredth above what was contributed today. -/
def DebtState.Outweighed (debt : DebtState) : Prop :=
  0 < debt.communityDebtMicroCu ∧ 0 < debt.dailyContributedCu ∧
    100 * debt.communityDebtMicroCu < 101 * debt.dailyContributedCu

def DebtState.jailStatus (debt : DebtState) : JailStatus :=
  determineJailStatus debt.communityDebtMicroCu debt.multiplierCeiling

theorem hardJail_of_severity {status : JailStatus}
    (hard : JailStatus.hardJail.severity ≤ status.severity) : status = .hardJail := by
  cases status with
  | pristine => exact absurd hard (by decide)
  | softWarning => exact absurd hard (by decide)
  | hardJail => rfl

theorem determineJailStatus_uncontributed {debt : Int} (owes : 0 < debt)
    (trustedContributor : Bool) :
    determineJailStatus debt (calculateMultiplierCeiling debt 0 trustedContributor) =
      .hardJail := by
  have ceiling : calculateMultiplierCeiling debt 0 trustedContributor = 100 := by
    simp [calculateMultiplierCeiling, owes]
  rw [ceiling, determineJailStatus, if_pos owes, if_pos rfl]

namespace DebtState

variable {debt : DebtState}

theorem jailStatus_debtFree (free : debt.communityDebtMicroCu = 0) :
    debt.jailStatus = .pristine := by
  rw [jailStatus, determineJailStatus, if_neg (by omega)]

namespace Weighed

theorem accrue (weighed : debt.Weighed) {cuWeight : Int} (natural : 0 ≤ cuWeight) :
    (debt.accrue cuWeight).Weighed where
  owes := add_nonneg weighed.owes natural
  contributes := weighed.contributes
  ceiling _ := rfl

theorem decrement (weighed : debt.Weighed) {cuWeight : Int} (natural : 0 ≤ cuWeight) :
    (debt.decrement cuWeight).Weighed where
  owes := by
    simp only [DebtState.decrement, updateMultiplierCeiling]
    split <;> omega
  contributes := add_nonneg weighed.contributes natural
  ceiling _ := rfl

theorem reset (weighed : debt.Weighed) : debt.processDailyDebtReset.Weighed where
  owes := by
    have owes := weighed.owes
    rw [reset_debt owes]
    omega
  contributes := le_refl 0
  ceiling _ := rfl

/-- A debtor is in hard jail unless the contribution outweighs the debt. -/
theorem hardJail_iff (weighed : debt.Weighed) (owes : 0 < debt.communityDebtMicroCu) :
    debt.jailStatus = .hardJail ↔ ¬debt.Outweighed := by
  have contributed := weighed.contributes
  rw [jailStatus, weighed.ceiling owes, Outweighed]
  rcases contributed.eq_or_lt with none | some
  · rw [← none, determineJailStatus_uncontributed owes]
    simp
  · rw [determineJailStatus_eq weighed.owes some]
    split
    case isTrue hard =>
      simp only [true_iff]
      omega
    case isFalse mild =>
      split <;> simp <;> omega

/-- After a reset there is hard jail for every debtor. -/
theorem reset_status (weighed : debt.Weighed) :
    debt.processDailyDebtReset.jailStatus =
      if debt.communityDebtMicroCu = 0 then .pristine else .hardJail := by
  have owes := weighed.owes
  have left := reset_debt owes
  split
  case isTrue free =>
    apply jailStatus_debtFree
    omega
  case isFalse owing =>
    have still : 0 < debt.processDailyDebtReset.communityDebtMicroCu := by omega
    have ceiling := weighed.reset.ceiling still
    rw [jailStatus, ceiling]
    exact determineJailStatus_uncontributed still _

theorem reset_harsher_iff (weighed : debt.Weighed) :
    debt.processDailyDebtReset.jailStatus.severity ≤ debt.jailStatus.severity ↔
      ¬debt.Outweighed := by
  rw [weighed.reset_status]
  split
  case isTrue free =>
    have debtFree : ¬debt.Outweighed := fun outweighed => by
      have owing := outweighed.1
      omega
    exact iff_of_true (Nat.zero_le _) debtFree
  case isFalse owing =>
    have owes := weighed.owes
    rw [← weighed.hardJail_iff (by omega)]
    constructor
    · exact hardJail_of_severity
    · intro hard
      rw [hard]

end Weighed

end DebtState

namespace TenantQuotaDO

variable (q : TenantQuotaDO)

/-- No call is made with a negative amount of debt. -/
def NaturalAmounts (_ : Run) : Op → Prop
  | .accrueDebt cuWeight _ _ | .decrementDebt cuWeight _ _ => 0 ≤ cuWeight
  | _ => True

instance (run : Run) : DecidablePred (NaturalAmounts run) := fun op => by
  cases op <;> unfold NaturalAmounts <;> infer_instance

/-- The debt in memory is weighed, and so is what a load makes of storage. -/
structure WeighedState (s : State) : Prop where
  memory : s.debt.Weighed
  stored : ∀ data, s.storage = some data → ∀ t, (restore t data).debt.Weighed

variable {q}

namespace WeighedState

variable {s : State}

theorem readStorage (weighed : WeighedState s) : WeighedState (readStorage s) := by
  refine ⟨?_, fun data => readStorage_storage s ▸ weighed.stored data⟩
  unfold TenantQuotaDO.readStorage
  cases stored : s.storage with
  | none => exact weighed.memory
  | some data => exact weighed.stored data stored s

theorem ensureLoaded (weighed : WeighedState s) (now : Int) :
    WeighedState (q.ensureLoaded s now) := by
  unfold TenantQuotaDO.ensureLoaded
  split
  case isTrue => exact weighed
  case isFalse => exact ⟨weighed.readStorage.memory, weighed.readStorage.stored⟩

/-- What is persisted is what is in memory. -/
theorem persist (memory : s.debt.Weighed) (now : Int) : WeighedState (q.persist s now) := by
  refine ⟨memory, ?_⟩
  intro data stored _
  cases stored
  exact memory

theorem withDebt (weighed : WeighedState s) {update : DebtState → DebtState}
    (keeps : ∀ debt : DebtState, debt.Weighed → (update debt).Weighed)
    (loadedAt persistedAt : Int) : WeighedState (q.withDebt update s loadedAt persistedAt) :=
  persist (keeps _ (weighed.ensureLoaded loadedAt).memory) persistedAt

theorem consumeQuota (weighed : WeighedState s) (request : ConsumeQuotaRequest)
    (loadedAt now persistedAt : Int) :
    WeighedState (q.consumeQuota s request loadedAt now persistedAt).2 := by
  have loaded : WeighedState (q.ensureLoaded s loadedAt) := weighed.ensureLoaded loadedAt
  rcases q.consumeQuota_cases s request loadedAt now persistedAt with
    ⟨_, eq⟩ | ⟨_, eq, -⟩ | ⟨_, eq, -⟩
  · rw [eq]
    exact weighed
  · rw [eq]
    exact ⟨loaded.memory, loaded.stored⟩
  · rw [eq]
    apply persist
    exact loaded.memory

theorem step {run : Run} (weighed : WeighedState run.state) {op : Op}
    (natural : NaturalAmounts run op) : WeighedState (q.step run op).state := by
  cases op with
  | consumeQuota request loadedAt now persistedAt =>
    exact weighed.consumeQuota request loadedAt now persistedAt
  | accrueDebt cuWeight loadedAt persistedAt =>
    exact weighed.withDebt (fun _ debt => debt.accrue natural) loadedAt persistedAt
  | decrementDebt cuWeight loadedAt persistedAt =>
    exact weighed.withDebt (fun _ debt => debt.decrement natural) loadedAt persistedAt
  | alarm loadedAt persistedAt =>
    exact weighed.withDebt (fun _ debt => debt.reset) loadedAt persistedAt
  | setTier tier loadedAt persistedAt =>
    apply persist
    exact (weighed.ensureLoaded loadedAt).memory
  | read now => exact weighed.ensureLoaded now
  | clearMemoryCache => exact ⟨weighed.memory, weighed.stored⟩
  | restart =>
    exact ⟨⟨le_refl 0, le_refl 0, fun owes => absurd owes (lt_irrefl 0)⟩, weighed.stored⟩

theorem start (clock : Int) : WeighedState (q.start clock).state where
  memory := ⟨le_refl 0, le_refl 0, fun owes => absurd owes (lt_irrefl 0)⟩
  stored _ stored := by cases stored

end WeighedState

variable (q)

/-- In every run with no negative amounts, a daily reset leaves every debtor in hard jail, and
is harsher than the standing before it just for those whose contribution outweighed the debt. -/
theorem daily_reset_standing (clock : Int) (ops : List Op)
    (natural : Transition.Guarded q.step NaturalAmounts (q.start clock) ops) :
    ∀ run ∈ Transition.reached q.step (q.start clock) ops, ∀ loadedAt persistedAt,
      let before := q.ensureLoaded run.state loadedAt
      let after := q.alarm run.state loadedAt persistedAt
      (getDebtState after).2.2.2 =
          (if before.debt.communityDebtMicroCu = 0 then .pristine else .hardJail) ∧
        ((getDebtState after).2.2.2.severity ≤ (getDebtState before).2.2.2.severity ↔
          ¬before.debt.Outweighed) := by
  intro run reached loadedAt persistedAt before after
  have weighed := Transition.invariant_of_guarded (I := fun run => WeighedState run.state)
    (fun _ _ weighed natural => weighed.step natural) (WeighedState.start clock) natural run reached
  have debt := (weighed.ensureLoaded (q := q) loadedAt).memory
  exact ⟨debt.reset_status, debt.reset_harsher_iff⟩

/-- A contributor who gave a hundred before owing ten. -/
def contributor : List Op := [.decrementDebt 100 0 0, .accrueDebt 10 1 1]

theorem daily_reset_standing_contributor :
    (getDebtState (alarm ⟨"acme", .builder, 60000, 86400000⟩
      (contributor.foldl (step ⟨"acme", .builder, 60000, 86400000⟩)
        (start ⟨"acme", .builder, 60000, 86400000⟩ 0)).state 2 2)).2.2.2 = .hardJail :=
  (daily_reset_standing ⟨"acme", .builder, 60000, 86400000⟩ 0 contributor
    ⟨by decide, by decide, trivial⟩ _ (Transition.foldl_mem_reached _ _ _) 2 2).1

/-- The contributor is in good standing, and in hard jail after the reset. -/
theorem daily_reset_jails :
    let run := contributor.foldl (step ⟨"acme", .builder, 60000, 86400000⟩)
      (start ⟨"acme", .builder, 60000, 86400000⟩ 0)
    Transition.Guarded (step ⟨"acme", .builder, 60000, 86400000⟩) NaturalAmounts
        (start ⟨"acme", .builder, 60000, 86400000⟩ 0) contributor ∧
      (getDebtState run.state).2.2.2 = .pristine ∧
      (getDebtState (alarm ⟨"acme", .builder, 60000, 86400000⟩ run.state 2 2)).2.2.2 =
        .hardJail := by
  refine ⟨⟨by decide, by decide, trivial⟩, ?_⟩
  decide +kernel

end TenantQuotaDO

end KeyCollective.Quota
