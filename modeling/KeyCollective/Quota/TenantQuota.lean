import KeyCollective.Lib.Transition
import KeyCollective.Quota.Evaluator
import Mathlib.Algebra.Order.Group.Nat

/-!
# TenantQuotaDO

The counters of one tenant, held in memory and persisted after every change. A
call may read the clock three times: when it loads, when it evaluates and when it
persists. Amounts that storage keeps as decimal strings are kept as the integers
they denote.
-/

namespace KeyCollective.Quota

open SlidingWindow

structure TenantIsolationError where
  message : String
  tenantId : Option String := none
  attemptedTenantId : Option String := none
deriving DecidableEq, Repr

structure TenantQuotaDOOptions where
  tenantId : Option String := none
  initialTier : Option UserTier := none
  rpmWindowMs : Option Int := none
  rpdWindowMs : Option Int := none

/-- What the constructor fixes. -/
structure TenantQuotaDO where
  tenantId : String
  initialTier : UserTier
  rpmWindowMs : Int
  rpdWindowMs : Int

structure TenantQuotaData where
  tenantId : String
  tier : UserTier
  entries : List QuotaEntry
  totalCostMicrodollars : Int
  communityDebtMicroCu : Option Int
  dailyContributedCu : Option Int
  trustedContributor : Option Bool
  consecutiveDebtFreeDays : Option Int
  multiplierCeiling : Option Int
  lastUpdated : Int

namespace TenantQuotaDO

/-- An instance and the storage it writes to. -/
structure State where
  tenantId : String
  tier : UserTier
  entries : List QuotaEntry
  totalCostMicrodollars : Int
  isLoaded : Bool
  debt : DebtState
  storage : Option TenantQuotaData

/-- `idName` is the name of the object's id, or the id itself when it has none. -/
def create (idName : String) (options : TenantQuotaDOOptions) :
    Except TenantIsolationError TenantQuotaDO :=
  let resolvedTenant := options.tenantId.getD idName
  if isBlank resolvedTenant then
    .error { message := "TenantQuotaDO requires a non-empty tenantId" }
  else
    .ok
      { tenantId := resolvedTenant
        initialTier := options.initialTier.getD .builder
        rpmWindowMs := options.rpmWindowMs.getD 60000
        rpdWindowMs := options.rpdWindowMs.getD 86400000 }

variable (q : TenantQuotaDO)

/-- A new instance over what storage holds. -/
def instantiate (storage : Option TenantQuotaData) : State where
  tenantId := q.tenantId
  tier := q.initialTier
  entries := []
  totalCostMicrodollars := 0
  isLoaded := false
  debt := ⟨0, 0, false, 0, 150⟩
  storage := storage

def assertTenant (s : State) (targetTenantId : Option String) :
    Except TenantIsolationError Unit :=
  match targetTenantId.filter (· ≠ "") with
  | none => .ok ()
  | some target =>
    if target ≠ s.tenantId then
      .error
        { message := "Tenant isolation violation: attempt to access/mutate tenant '" ++ target ++
            "' in TenantQuotaDO for tenant '" ++ s.tenantId ++ "'"
          tenantId := some s.tenantId
          attemptedTenantId := some target }
    else .ok ()

def pruneEntries (s : State) (now : Int) : State :=
  { s with entries := s.entries.filter fun e => now - q.rpdWindowMs < e.timestamp }

def persist (s : State) (now : Int) : State :=
  let s := q.pruneEntries s now
  { s with
    storage := some
      { tenantId := s.tenantId
        tier := s.tier
        entries := s.entries
        totalCostMicrodollars := s.totalCostMicrodollars
        communityDebtMicroCu := some s.debt.communityDebtMicroCu
        dailyContributedCu := some s.debt.dailyContributedCu
        trustedContributor := some s.debt.trustedContributor
        consecutiveDebtFreeDays := some s.debt.consecutiveDebtFreeDays
        multiplierCeiling := some s.debt.multiplierCeiling
        lastUpdated := now } }

def restore (s : State) (stored : TenantQuotaData) : State :=
  { s with
    tenantId := if stored.tenantId ≠ "" then stored.tenantId else s.tenantId
    tier := stored.tier
    entries := stored.entries
    totalCostMicrodollars := stored.totalCostMicrodollars
    debt :=
      { communityDebtMicroCu := stored.communityDebtMicroCu.getD s.debt.communityDebtMicroCu
        dailyContributedCu := stored.dailyContributedCu.getD s.debt.dailyContributedCu
        trustedContributor := stored.trustedContributor.getD s.debt.trustedContributor
        consecutiveDebtFreeDays :=
          stored.consecutiveDebtFreeDays.getD s.debt.consecutiveDebtFreeDays
        multiplierCeiling := stored.multiplierCeiling.getD s.debt.multiplierCeiling } }

def readStorage (s : State) : State :=
  match s.storage with
  | some stored => restore s stored
  | none => s

def ensureLoaded (s : State) (now : Int) : State :=
  if s.isLoaded then s else { q.pruneEntries (readStorage s) now with isLoaded := true }

/-- The debt fields stay in memory until the next load. -/
def clearMemoryCache (s : State) : State :=
  { s with entries := [], totalCostMicrodollars := 0, isLoaded := false }

/-- The debt, the contribution, the ceiling and the standing they amount to. -/
def getDebtState (s : State) : Int × Int × Int × JailStatus :=
  (s.debt.communityDebtMicroCu, s.debt.dailyContributedCu, s.debt.multiplierCeiling,
    determineJailStatus s.debt.communityDebtMicroCu s.debt.multiplierCeiling)

/-- A debt operation: load, update the debt, persist. -/
def withDebt (update : DebtState → DebtState) (s : State) (loadedAt persistedAt : Int) : State :=
  let s := q.ensureLoaded s loadedAt
  q.persist { s with debt := update s.debt } persistedAt

def accrueDebt (s : State) (cuWeight loadedAt persistedAt : Int) : State :=
  q.withDebt (·.accrue cuWeight) s loadedAt persistedAt

def decrementDebt (s : State) (cuWeight loadedAt persistedAt : Int) : State :=
  q.withDebt (·.decrement cuWeight) s loadedAt persistedAt

def alarm (s : State) (loadedAt persistedAt : Int) : State :=
  q.withDebt (·.processDailyDebtReset) s loadedAt persistedAt

def setTier (s : State) (tier : UserTier) (loadedAt persistedAt : Int) : State :=
  let s := q.ensureLoaded s loadedAt
  q.persist { s with tier := tier } persistedAt

def reset (s : State) (loadedAt persistedAt : Int) : State :=
  let s := q.ensureLoaded s loadedAt
  q.persist { s with entries := [], totalCostMicrodollars := 0 } persistedAt

def evaluationContext (s : State) (now : Int) : QuotaEvaluationContext where
  tenantId := s.tenantId
  tier := s.tier
  entries := s.entries
  totalCostMicrodollars := s.totalCostMicrodollars
  debt := s.debt
  rpmWindowMs := q.rpmWindowMs
  rpdWindowMs := q.rpdWindowMs
  now := now

def consumeQuota (s : State) (request : ConsumeQuotaRequest) (loadedAt now persistedAt : Int) :
    Except TenantIsolationError ConsumeQuotaResult × State :=
  match assertTenant s request.tenantId with
  | .error error => (.error error, s)
  | .ok () =>
    let s := q.pruneEntries (q.ensureLoaded s loadedAt) now
    let evaluation := evaluateQuota request (q.evaluationContext s now)
    match evaluation.newEntry with
    | some newEntry =>
      let s := { s with
        entries := s.entries ++ [newEntry]
        totalCostMicrodollars := s.totalCostMicrodollars + evaluation.incomingCost }
      (.ok evaluation.result, q.persist s persistedAt)
    | none => (.ok evaluation.result, s)

@[simp] theorem readStorage_storage (s : State) : (readStorage s).storage = s.storage := by
  unfold readStorage
  cases stored : s.storage with
  | none => exact stored
  | some data => exact stored

end TenantQuotaDO

end KeyCollective.Quota
