import KeyCollective.Host
import KeyCollective.Lib.SlidingWindow
import KeyCollective.Quota.Debt
import KeyCollective.Quota.Limits

/-!
# The quota evaluator

Three checks in order: the tenant's requests per minute, its requests per day,
and the project's share of the minute.
-/

namespace KeyCollective.Quota

open SlidingWindow

/-- A cost as a caller may pass it. -/
inductive Cost where
  | bigint (n : Int)
  | number (x : Rat)
  | string (s : String)
deriving DecidableEq

def toMicrodollars : Option Cost → Int
  | some (.bigint n) => n
  | some (.number x) => x.num.tdiv x.den
  | some (.string s) => if (trim s).isEmpty then 0 else (stringToBigInt (trim s)).getD 0
  | none => 0

structure QuotaEntry where
  timestamp : Int
  count : Nat
  costMicrodollars : Int
  projectId : Option String
deriving DecidableEq, Repr

def QuotaEntry.gauge : Gauge QuotaEntry Int Nat := ⟨timestamp, count⟩

structure ConsumeQuotaRequest where
  tenantId : Option String := none
  projectId : Option String := none
  tier : Option UserTier := none
  projectMaxSubCap : Option Int := none
  costMicrodollars : Option Cost := none
  count : Option Int := none
  checkOnly : Bool := false

inductive QuotaErrorCode where
  | userQuotaExhausted
  | userDailyQuotaExhausted
  | projectSubCapExceeded
deriving DecidableEq, Repr

def QuotaErrorCode.code : QuotaErrorCode → String
  | .userQuotaExhausted => "USER_QUOTA_EXHAUSTED"
  | .userDailyQuotaExhausted => "USER_DAILY_QUOTA_EXHAUSTED"
  | .projectSubCapExceeded => "PROJECT_SUB_CAP_EXCEEDED"

def QuotaErrorCode.error : QuotaErrorCode → String
  | .userQuotaExhausted => "User quota ceiling exceeded"
  | .userDailyQuotaExhausted => "User daily quota ceiling exceeded"
  | .projectSubCapExceeded => "Project sub-cap exceeded"

structure ConsumeQuotaResult where
  allowed : Bool
  tenantId : String
  projectId : Option String
  tier : UserTier
  currentRpm : Nat
  rpmLimit : Limit
  currentRpd : Nat
  rpdLimit : Limit
  currentProjectRpm : Option Nat := none
  projectRpmLimit : Option Limit := none
  totalCostMicrodollars : Int
  debt : DebtState
  remainingRpm : Limit
  remainingRpd : Limit
  retryAfterSeconds : Option Int := none
  errorCode : Option QuotaErrorCode := none

def ConsumeQuotaResult.error (result : ConsumeQuotaResult) : Option String :=
  result.errorCode.map QuotaErrorCode.error

structure QuotaEvaluationContext where
  tenantId : String
  tier : UserTier
  entries : List QuotaEntry
  totalCostMicrodollars : Int
  debt : DebtState
  rpmWindowMs : Int
  rpdWindowMs : Int
  now : Int

structure Evaluation where
  result : ConsumeQuotaResult
  newEntry : Option QuotaEntry := none
  incomingCost : Int

/-- The project a request is charged to. An empty id is none. -/
def truthyProject (projectId : Option String) : Option String := projectId.filter (· ≠ "")

def inScope (projectId : Option String) (entry : QuotaEntry) : Bool :=
  match truthyProject projectId with
  | some id => entry.projectId = some id
  | none => true

/-- The loop over the entries, with its running count. -/
def countUsage (cutoff : Int) (projectId : Option String) : List QuotaEntry → Nat → Nat
  | [], count => count
  | e :: rest, count =>
    if cutoff < e.timestamp then
      if inScope projectId e then countUsage cutoff projectId rest (count + e.count)
      else countUsage cutoff projectId rest count
    else countUsage cutoff projectId rest count

def calculateUsage (entries : List QuotaEntry) (windowMs now : Int)
    (projectId : Option String := none) : Nat :=
  countUsage (now - windowMs) projectId entries 0

/-- `Math.ceil(ms / 1000)`. -/
def ceilSeconds (ms : Int) : Int := -(-ms / 1000)

def calculateRpmRetryAfter (entries : List QuotaEntry) (rpmWindowMs now : Int) : Int :=
  match entries.find? fun e => now - rpmWindowMs < e.timestamp with
  | some e => max 1 (ceilSeconds (e.timestamp + rpmWindowMs - now))
  | none => 60

def ConsumeQuotaRequest.requestedCount (request : ConsumeQuotaRequest) : Nat :=
  match request.count with
  | some count => if 0 < count then count.toNat else 1
  | none => 1

def evaluateQuota (request : ConsumeQuotaRequest) (ctx : QuotaEvaluationContext) : Evaluation :=
  let effectiveTier := request.tier.getD ctx.tier
  let requestedCount := request.requestedCount
  let incomingCost := toMicrodollars request.costMicrodollars
  let rootRpmLimit := (getTierLimits effectiveTier).rpmLimit
  let rootRpdLimit := (getTierLimits effectiveTier).rpdLimit
  let currentRootRpm := calculateUsage ctx.entries ctx.rpmWindowMs ctx.now
  let currentRootRpd := calculateUsage ctx.entries ctx.rpdWindowMs ctx.now
  let projectRpmLimit := calculateProjectQuota effectiveTier request.projectMaxSubCap
  let currentProjectRpm :=
    calculateUsage ctx.entries ctx.rpmWindowMs ctx.now request.projectId
  let project := truthyProject request.projectId
  let current : ConsumeQuotaResult :=
    { allowed := true
      tenantId := ctx.tenantId
      projectId := request.projectId
      tier := effectiveTier
      currentRpm := currentRootRpm
      rpmLimit := rootRpmLimit
      currentRpd := currentRootRpd
      rpdLimit := rootRpdLimit
      totalCostMicrodollars := ctx.totalCostMicrodollars
      debt := ctx.debt
      remainingRpm := rootRpmLimit.remaining currentRootRpm
      remainingRpd := rootRpdLimit.remaining currentRootRpd }
  let denied (code : QuotaErrorCode) (retryAfterSeconds : Int) : ConsumeQuotaResult :=
    { current with
      allowed := false
      retryAfterSeconds := some retryAfterSeconds
      errorCode := some code }
  if rootRpmLimit.exceeded (currentRootRpm + requestedCount) then
    { result := denied .userQuotaExhausted
        (calculateRpmRetryAfter ctx.entries ctx.rpmWindowMs ctx.now)
      incomingCost }
  else if rootRpdLimit.exceeded (currentRootRpd + requestedCount) then
    { result := denied .userDailyQuotaExhausted 86400
      incomingCost }
  else if project.isSome ∧ projectRpmLimit.exceeded (currentProjectRpm + requestedCount) then
    -- The wait is taken from the tenant's entries, not from the project's.
    { result :=
        { denied .projectSubCapExceeded
            (calculateRpmRetryAfter ctx.entries ctx.rpmWindowMs ctx.now) with
          currentProjectRpm := some currentProjectRpm
          projectRpmLimit := some projectRpmLimit }
      incomingCost }
  else if request.checkOnly then
    { result :=
        { current with
          currentProjectRpm := project.map fun _ => currentProjectRpm
          projectRpmLimit := project.map fun _ => projectRpmLimit }
      incomingCost }
  else
    let updatedRootRpm := currentRootRpm + requestedCount
    let updatedRootRpd := currentRootRpd + requestedCount
    { result :=
        { current with
          currentRpm := updatedRootRpm
          currentRpd := updatedRootRpd
          currentProjectRpm := project.map fun _ => currentProjectRpm + requestedCount
          projectRpmLimit := project.map fun _ => projectRpmLimit
          totalCostMicrodollars := ctx.totalCostMicrodollars + incomingCost
          remainingRpm := rootRpmLimit.remaining updatedRootRpm
          remainingRpd := rootRpdLimit.remaining updatedRootRpd }
      newEntry := some
        { timestamp := ctx.now
          count := requestedCount
          costMicrodollars := incomingCost
          projectId := project }
      incomingCost }

/-! ## What an evaluation decides -/

theorem calculateUsage_eq (entries : List QuotaEntry) (windowMs now : Int)
    (projectId : Option String) :
    calculateUsage entries windowMs now projectId =
      QuotaEntry.gauge.total
        (fun e => now - windowMs < e.timestamp ∧ inScope projectId e) entries := by
  have loop : ∀ count, countUsage (now - windowMs) projectId entries count =
      count + QuotaEntry.gauge.total
        (fun e => now - windowMs < e.timestamp ∧ inScope projectId e) entries := by
    induction entries with
    | nil => intro count; rfl
    | cons e rest ih =>
      intro count
      rw [countUsage, Gauge.total_cons, ih, ih]
      by_cases late : now - windowMs < e.timestamp <;> cases scope : inScope projectId e <;>
        simp [late, QuotaEntry.gauge, Nat.add_assoc]
  rw [calculateUsage, loop, Nat.zero_add]

namespace QuotaErrorCode

variable (request : ConsumeQuotaRequest) (ctx : QuotaEvaluationContext)

/-- The limit a check compares with. -/
def limit : QuotaErrorCode → Limit
  | userQuotaExhausted => (getTierLimits (request.tier.getD ctx.tier)).rpmLimit
  | userDailyQuotaExhausted => (getTierLimits (request.tier.getD ctx.tier)).rpdLimit
  | projectSubCapExceeded =>
    calculateProjectQuota (request.tier.getD ctx.tier) request.projectMaxSubCap

/-- The window a check looks at. -/
def window : QuotaErrorCode → Int
  | userQuotaExhausted => ctx.rpmWindowMs
  | userDailyQuotaExhausted => ctx.rpdWindowMs
  | projectSubCapExceeded => ctx.rpmWindowMs

/-- The project whose entries a check counts, if not the whole tenant's. -/
def scope : QuotaErrorCode → Option String
  | userQuotaExhausted => none
  | userDailyQuotaExhausted => none
  | projectSubCapExceeded => request.projectId

/-- The usage a check finds. -/
def usage (code : QuotaErrorCode) : Nat :=
  calculateUsage ctx.entries (code.window ctx) ctx.now (code.scope request)

/-- The check is made, and fails. -/
def fails (code : QuotaErrorCode) : Bool :=
  (code = projectSubCapExceeded → (truthyProject request.projectId).isSome) ∧
    (code.limit request ctx).exceeded (code.usage request ctx + request.requestedCount)

def firstFailure : Option QuotaErrorCode :=
  [userQuotaExhausted, userDailyQuotaExhausted, projectSubCapExceeded].find? (fails request ctx)

/-- The wait a denial advertises. -/
def retryAfterSeconds : QuotaErrorCode → Int
  | userQuotaExhausted => calculateRpmRetryAfter ctx.entries ctx.rpmWindowMs ctx.now
  | userDailyQuotaExhausted => 86400
  | projectSubCapExceeded => calculateRpmRetryAfter ctx.entries ctx.rpmWindowMs ctx.now

theorem fails_firstFailure {code : QuotaErrorCode}
    (first : firstFailure request ctx = some code) : code.fails request ctx = true :=
  List.find?_some first

theorem passes_of_firstFailure (code : QuotaErrorCode)
    (first : firstFailure request ctx = none) : code.fails request ctx = false := by
  have passes := List.find?_eq_none.mp first code
  cases code <;> simpa using passes

end QuotaErrorCode

section Evaluate

variable (request : ConsumeQuotaRequest) (ctx : QuotaEvaluationContext)

/-- What a denial for `code` reports. -/
def Denied (evaluation : Evaluation) (code : QuotaErrorCode) : Prop :=
  evaluation.result.allowed = false ∧ evaluation.result.errorCode = some code ∧
    evaluation.result.retryAfterSeconds = some (code.retryAfterSeconds ctx) ∧
    evaluation.newEntry = none

/-- The entry of a request that is let through. -/
def admittedEntry : QuotaEntry where
  timestamp := ctx.now
  count := request.requestedCount
  costMicrodollars := toMicrodollars request.costMicrodollars
  projectId := truthyProject request.projectId

def Admitted (evaluation : Evaluation) : Prop :=
  evaluation.result.allowed = true ∧ evaluation.result.errorCode = none ∧
    evaluation.newEntry =
      if request.checkOnly then none else some (admittedEntry request ctx)

/-- An evaluation is denied for the first check that fails, or lets the request through. -/
theorem evaluateQuota_cases :
    (∃ code, QuotaErrorCode.firstFailure request ctx = some code ∧
      Denied ctx (evaluateQuota request ctx) code) ∨
    (QuotaErrorCode.firstFailure request ctx = none ∧
      Admitted request ctx (evaluateQuota request ctx)) := by
  have rpm : QuotaErrorCode.fails request ctx .userQuotaExhausted =
      (getTierLimits (request.tier.getD ctx.tier)).rpmLimit.exceeded
        (calculateUsage ctx.entries ctx.rpmWindowMs ctx.now + request.requestedCount) := by
    simp [QuotaErrorCode.fails, QuotaErrorCode.limit, QuotaErrorCode.usage,
      QuotaErrorCode.window, QuotaErrorCode.scope]
  have rpd : QuotaErrorCode.fails request ctx .userDailyQuotaExhausted =
      (getTierLimits (request.tier.getD ctx.tier)).rpdLimit.exceeded
        (calculateUsage ctx.entries ctx.rpdWindowMs ctx.now + request.requestedCount) := by
    simp [QuotaErrorCode.fails, QuotaErrorCode.limit, QuotaErrorCode.usage,
      QuotaErrorCode.window, QuotaErrorCode.scope]
  have project : QuotaErrorCode.fails request ctx .projectSubCapExceeded = true ↔
      (truthyProject request.projectId).isSome = true ∧
        (calculateProjectQuota (request.tier.getD ctx.tier) request.projectMaxSubCap).exceeded
          (calculateUsage ctx.entries ctx.rpmWindowMs ctx.now request.projectId +
            request.requestedCount) = true := by
    simp [QuotaErrorCode.fails, QuotaErrorCode.limit, QuotaErrorCode.usage,
      QuotaErrorCode.window, QuotaErrorCode.scope]
  simp only [QuotaErrorCode.firstFailure, List.find?, Denied, Admitted]
  unfold evaluateQuota
  simp only [← rpm, ← rpd, ← project]
  cases QuotaErrorCode.fails request ctx .userQuotaExhausted with
  | true => exact Or.inl ⟨_, rfl, rfl, rfl, rfl, rfl⟩
  | false =>
    cases QuotaErrorCode.fails request ctx .userDailyQuotaExhausted with
    | true => exact Or.inl ⟨_, rfl, rfl, rfl, rfl, rfl⟩
    | false =>
      cases QuotaErrorCode.fails request ctx .projectSubCapExceeded with
      | true => exact Or.inl ⟨_, rfl, rfl, rfl, rfl, rfl⟩
      | false =>
        refine Or.inr ⟨rfl, ?_⟩
        cases request.checkOnly <;> exact ⟨rfl, rfl, rfl⟩

theorem evaluateQuota_tier :
    (evaluateQuota request ctx).result.tier = request.tier.getD ctx.tier := by
  simp only [evaluateQuota]
  split_ifs <;> rfl

theorem evaluateQuota_incomingCost :
    (evaluateQuota request ctx).incomingCost = toMicrodollars request.costMicrodollars := by
  simp only [evaluateQuota]
  split_ifs <;> rfl

/-- A denied request reports the code of the first check that failed, and its wait. -/
theorem evaluateQuota_errorCode :
    (evaluateQuota request ctx).result.errorCode = QuotaErrorCode.firstFailure request ctx := by
  rcases evaluateQuota_cases request ctx with ⟨code, first, -, reported, -⟩ | ⟨first, -, reported, -⟩
  · rw [first, reported]
  · rw [first, reported]

theorem evaluateQuota_allowed :
    (evaluateQuota request ctx).result.allowed =
      (QuotaErrorCode.firstFailure request ctx).isNone := by
  rcases evaluateQuota_cases request ctx with ⟨code, first, denied, -⟩ | ⟨first, allowed, -⟩
  · rw [first, denied]
    rfl
  · rw [first, allowed]
    rfl

end Evaluate

end KeyCollective.Quota
