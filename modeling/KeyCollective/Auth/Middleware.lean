import KeyCollective.Auth.Accounts
import KeyCollective.Constants
import KeyCollective.Host
import KeyCollective.Quota.Limits

/-!
# Authentication

A request is authenticated by its bearer token: the stored record of the token is checked
for expiry, providers and budget, and a rate limiter admits it. Which limiter that is, and
what it remembers, is a parameter here.
-/

namespace KeyCollective

inductive AuthError where
  | authentication (message reason : String)
  | quotaExceeded (message quotaType : String) (limit : Quota.Limit) (consumed : Int)
  | rateLimitExceeded (message : String) (rpmLimit : Quota.Limit)
      (currentRpm retryAfterSeconds : Int)
  | tenantIsolation (message : String)
deriving DecidableEq, Repr

/-- `/^bearer\s*(.*)$/i` on a trimmed header. -/
@[irreducible] def bearerToken (trimmed : String) : Option String :=
  if (trimmed.toList.take 6).map Char.toLower = "bearer".toList then
    some (trim (String.ofList (trimmed.toList.drop 6)))
  else none

def extractBearerToken (authorization : Option String) : Except AuthError String :=
  match (authorization.filter fun header => !isBlank header) with
  | none => .error (.authentication "Missing Authorization header" "missing_token")
  | some header =>
    match bearerToken (trim header) with
    | none =>
      .error (.authentication "Malformed Authorization header: Bearer scheme required"
        "malformed_header")
    | some token =>
      if token = "" then .error (.authentication "Bearer token cannot be empty" "missing_token")
      else .ok token

/-- What the pool of demo tokens answers. -/
structure DemoAnswer where
  allowed : Bool
  error : Option String
  rpmLimit : Option Int
  currentRpm : Option Int
  remainingRpm : Option Int

/-- `error || "Invalid or expired demo token"`. -/
def DemoAnswer.message (answer : DemoAnswer) : String :=
  (answer.error.filter (· ≠ "")).getD "Invalid or expired demo token"

/-- The bindings of the worker, apart from the limiters. -/
structure WorkerEnv where
  kcMasterKey : Option String
  hasDb : Bool
  demoPool : Option (String → DemoAnswer)

namespace AuthMiddleware

structure AuthMiddlewareOptions where
  masterKey : Option String := none
  requiredProvider : Option String := none
  costMicrodollars : Option Int := none
  rpmLimitOverride : Option Int := none

/-- The headers that authentication reads. -/
structure AuthHeaders where
  authorization : Option String
  /-- `x-project-id ?? kc-project-id`. -/
  projectId : Option String

/-- What a limiter is asked about a token whose record passed the checks. -/
structure AdmitRequest where
  record : AuthTokenRecord
  effectiveRpm : Int
  incomingCost : Int
  projectId : Option String
  rpmLimitOverride : Option Int

structure Admitted where
  rpmLimit : Quota.Limit
  currentRpm : Int
  remainingRpm : Quota.Limit
deriving DecidableEq, Repr

structure AuthenticatedContext where
  tenantId : String
  isAuthenticated : Bool := true
  token : AuthTokenRecord
  rpmLimit : Quota.Limit
  currentRpm : Int
  remainingRpm : Quota.Limit
  budgetMicrodollars : Int
  spentMicrodollars : Int
  budgetRemainingMicrodollars : Option Int := none
deriving DecidableEq, Repr

/-- The master key acts for the administrator. -/
def masterContext [Edge] (rawToken : String) : AuthenticatedContext where
  tenantId := "admin"
  token :=
    { id := "master_key"
      hashSha256 := Edge.hashToken rawToken
      tenantId := "admin"
      budgetMicrodollars := 0
      spentMicrodollars := 0
      allowedProviders := []
      rpmLimit := 10000
      expiresAt := none }
  rpmLimit := (10000 : Int)
  currentRpm := 1
  remainingRpm := (9999 : Int)
  budgetMicrodollars := 0
  spentMicrodollars := 0

def demoContext [Edge] (rawToken : String) (answer : DemoAnswer) : AuthenticatedContext where
  tenantId := "demo"
  token :=
    { id := "demo_" ++ String.ofList (rawToken.toList.take 16)
      hashSha256 := Edge.hashToken rawToken
      tenantId := "demo"
      budgetMicrodollars := 1000000
      spentMicrodollars := 0
      allowedProviders := []
      rpmLimit := answer.rpmLimit.getD 3
      expiresAt := none }
  rpmLimit := answer.rpmLimit.getD 3
  currentRpm := answer.currentRpm.getD 1
  remainingRpm := answer.remainingRpm.getD 2
  budgetMicrodollars := 1000000
  spentMicrodollars := 0

/-- A token without a record is the master key, a demo token or invalid. -/
def withoutRecord [Edge] (options : AuthMiddlewareOptions) (env : WorkerEnv) (rawToken : String) :
    Except AuthError AuthenticatedContext :=
  if ((options.masterKey <|> env.kcMasterKey).filter (· ≠ "")) = some rawToken then
    .ok (masterContext rawToken)
  else
    match env.demoPool.filter fun _ => startsWith rawToken "kc_demo_" with
    | none => .error (.authentication "Invalid bearer token" "invalid_token")
    | some consume =>
      if (consume rawToken).allowed then .ok (demoContext rawToken (consume rawToken))
      else .error (.authentication (consume rawToken).message "invalid_token")

/-- The record's expiry, its providers and its budget. -/
def checkRecord [Host] (options : AuthMiddlewareOptions) (now : Int) (record : AuthTokenRecord) :
    Except AuthError Unit :=
  let budget := record.budgetMicrodollars
  let spent := record.spentMicrodollars
  let incomingCost := options.costMicrodollars.getD 0
  if record.expiresAt.any (· ≤ now) then
    .error (.authentication "Bearer token has expired" "expired_token")
  else
    match (options.requiredProvider.filter (· ≠ "")).filter fun provider =>
        record.allowedProviders ≠ [] ∧
          ¬record.allowedProviders.any fun allowed =>
            trim (Host.toLowerCase allowed) = trim (Host.toLowerCase provider) with
    | some provider =>
      .error (.authentication
        ("Provider '" ++ provider ++ "' is not allowed for this authentication token")
        "provider_not_allowed")
    | none =>
      if 0 < budget ∧ budget ≤ spent then
        .error (.quotaExceeded
          s!"Tenant budget ceiling reached: token budget exhausted ({spent}/{budget} µ$)"
          "spend_limit" budget spent)
      else if 0 < budget ∧ 0 < incomingCost ∧ budget < spent + incomingCost then
        .error (.quotaExceeded "Estimated request cost exceeds remaining tenant budget"
          "spend_limit" budget spent)
      else .ok ()

def admitRequest (options : AuthMiddlewareOptions) (headers : AuthHeaders)
    (record : AuthTokenRecord) : AdmitRequest where
  record
  effectiveRpm := options.rpmLimitOverride.getD record.rpmLimit
  incomingCost := options.costMicrodollars.getD 0
  projectId := headers.projectId
  rpmLimitOverride := options.rpmLimitOverride

def recordContext (record : AuthTokenRecord) (admitted : Admitted) : AuthenticatedContext where
  tenantId := record.tenantId
  token := record
  rpmLimit := admitted.rpmLimit
  currentRpm := admitted.currentRpm
  remainingRpm := admitted.remainingRpm
  budgetMicrodollars := record.budgetMicrodollars
  spentMicrodollars := record.spentMicrodollars
  budgetRemainingMicrodollars :=
    if 0 < record.budgetMicrodollars then
      some (record.budgetMicrodollars - record.spentMicrodollars)
    else none

/-- Authentication, where `limiter` answers for the limiter in the state it is in. -/
def authenticate [Edge] [Host] (options : AuthMiddlewareOptions) (env : WorkerEnv)
    (tokens : AuthTokens) (headers : AuthHeaders) (now : Int)
    (limiter : AdmitRequest → Except AuthError Admitted) :
    Except AuthError AuthenticatedContext :=
  match extractBearerToken headers.authorization with
  | .error e => .error e
  | .ok rawToken =>
    if !env.hasDb then
      .error (.authentication
        "D1 database binding (DB) is required for authentication lookup" "missing_db_binding")
    else
      match tokens.findByToken rawToken with
      | none => withoutRecord options env rawToken
      | some record =>
        match checkRecord options now record with
        | .error e => .error e
        | .ok () => (limiter (admitRequest options headers record)).map (recordContext record)

/-- A request with a token of `acme`'s that allows so many a minute. -/
def acmeAsk (rpmLimit : Int) : AdmitRequest where
  record :=
    { id := "tok_1", hashSha256 := "h", tenantId := "acme", budgetMicrodollars := 0,
      spentMicrodollars := 0, allowedProviders := [], rpmLimit, expiresAt := none }
  effectiveRpm := rpmLimit
  incomingCost := 0
  projectId := none
  rpmLimitOverride := none

end AuthMiddleware

end KeyCollective
