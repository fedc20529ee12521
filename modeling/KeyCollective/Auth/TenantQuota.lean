import KeyCollective.Auth.Middleware
import KeyCollective.Quota.Storage

/-!
# The quota object as the limiter

Where the worker has the quota objects bound, the middleware asks the tenant's object. The
request it sends holds the tenant, the project and the cost; of the limits of the token it
holds an override alone, as the cap of the project, and it names no tier.
-/

namespace KeyCollective.AuthMiddleware

open Quota

/-- How a stub is called. -/
inductive Transport where
  | rpc
  | fetch
deriving DecidableEq, Repr

/-- The request sent to the tenant's object. Over `fetch` the cost is written in decimal. -/
def consumeRequest (transport : Transport) (ask : AdmitRequest) : ConsumeQuotaRequest where
  tenantId := some ask.record.tenantId
  projectId := truthyProject ask.projectId
  projectMaxSubCap := ask.rpmLimitOverride
  costMicrodollars := some <|
    match transport with
    | .rpc => .bigint ask.incomingCost
    | .fetch => .string (toString ask.incomingCost)
  count := some 1

/-- A limit in JSON: `Infinity` becomes `null`, and a number stands in for it. -/
def Limit.orElse (limit : Limit) (instead : Limit) : Limit := if limit = ⊤ then instead else limit

/-- What the middleware makes of the object's answer. A denial always has a text. -/
def admission (transport : Transport) (ask : AdmitRequest) :
    Except TenantIsolationError ConsumeQuotaResult → Except AuthError Admitted
  | .error e => .error (.tenantIsolation e.message)
  | .ok result =>
    if !result.allowed then
      if result.errorCode = some .userDailyQuotaExhausted then
        .error (.quotaExceeded (result.error.getD "") "rpd" result.rpdLimit result.currentRpd)
      else
        .error (.rateLimitExceeded (result.error.getD "") result.rpmLimit result.currentRpm
          (result.retryAfterSeconds.getD 60))
    else
      match transport with
      | .rpc => .ok ⟨result.rpmLimit, result.currentRpm, result.remainingRpm⟩
      | .fetch =>
        let rpmLimit := Limit.orElse result.rpmLimit ask.effectiveRpm
        .ok ⟨rpmLimit, result.currentRpm,
          Limit.orElse result.remainingRpm (rpmLimit.remaining result.currentRpm)⟩

/-- The object of a tenant, as the runtime constructs it. -/
def tenantQuota (tenantId : String) : TenantQuotaDO := ⟨tenantId, .builder, 60000, 86400000⟩

theorem create_tenantQuota {tenantId : String} (named : isBlank tenantId = false) :
    TenantQuotaDO.create tenantId {} = .ok (tenantQuota tenantId) := by
  unfold TenantQuotaDO.create
  simp only [Option.getD_none, named, Bool.false_eq_true, ↓reduceIte]
  rfl

/-- A token with a record, on the quota object in the state it is in. -/
def quotaAdmission (transport : Transport) (s : TenantQuotaDO.State) (ask : AdmitRequest)
    (loadedAt now persistedAt : Int) : Except AuthError Admitted × TenantQuotaDO.State :=
  let (outcome, s) := (tenantQuota ask.record.tenantId).consumeQuota s
    (consumeRequest transport ask) loadedAt now persistedAt
  (admission transport ask outcome, s)

/-! ## What the object decides -/

section Requests

variable (transport : Transport) (ask : AdmitRequest)

@[simp] theorem consumeRequest_tier : (consumeRequest transport ask).tier = none := rfl

@[simp] theorem consumeRequest_checkOnly : (consumeRequest transport ask).checkOnly = false := rfl

@[simp] theorem consumeRequest_count : (consumeRequest transport ask).requestedCount = 1 := rfl

@[simp] theorem consumeRequest_project :
    truthyProject (consumeRequest transport ask).projectId = truthyProject ask.projectId := by
  simp [consumeRequest, truthyProject, Option.filter_filter]

/-- Both transports charge the same cost. -/
theorem consumeRequest_cost :
    toMicrodollars (consumeRequest transport ask).costMicrodollars = ask.incomingCost := by
  cases transport with
  | rpc => rfl
  | fetch => exact TenantQuotaData.toMicrodollars_toString ask.incomingCost

/-- A request is let through just when the object allows it. -/
theorem admission_isOk (outcome : Except TenantIsolationError ConsumeQuotaResult) :
    (admission transport ask outcome).isOk = outcome.toOption.any ConsumeQuotaResult.allowed := by
  cases outcome with
  | error e => rfl
  | ok result =>
    cases allowed : result.allowed with
    | true => cases transport <;> simp [admission, allowed, Except.isOk, Except.toBool, Except.toOption]
    | false =>
      by_cases daily : result.errorCode = some .userDailyQuotaExhausted
      · simp [admission, allowed, daily, Except.isOk, Except.toBool, Except.toOption]
      · simp [admission, allowed, daily, Except.isOk, Except.toBool, Except.toOption]

end Requests

end KeyCollective.AuthMiddleware
