import KeyCollective.Host
import KeyCollective.Lib.IndexedMap
import KeyCollective.Number

/-!
# The demo sandbox

One object hands out a token that rotates and limits the requests made with it: per IP and
over all, per minute and per day. The windows of an IP are one list of timestamps, which a
rotation discards once the IP has been idle for a while.
-/

namespace KeyCollective

structure IpWindowData where
  ip : String
  requests : Nat
  windowStart : Int
  timestamps : List Int
  minuteWindowStart : Int
  minuteRequests : Nat
  dayWindowStart : Int
  dayRequests : Nat
deriving DecidableEq, Repr

inductive DemoRefusal where
  | ipRpmExceeded
  | ipRpdExceeded
  | globalRpmExceeded
  | globalRpdExceeded
deriving DecidableEq, Repr

structure DemoRateLimitResult where
  allowed : Bool
  currentRpm : Nat
  rpmLimit : Nat
  currentRpd : Nat
  rpdLimit : Nat
  globalRpm : Nat
  globalRpmLimit : Nat
  retryAfterSeconds : Option Number := none
  reason : Option DemoRefusal := none
deriving DecidableEq

structure DemoSandboxConfig where
  ipRpmLimit : Nat := 1
  ipRpdLimit : Nat := 5
  globalRpmLimit : Nat := 5
  globalRpdLimit : Nat := 20
  stalePruneMs : Int := 60 * 60 * 1000
deriving DecidableEq, Repr

structure DemoSandbox where
  config : DemoSandboxConfig
  ipSlidingWindows : IndexedMap IpWindowData.ip
  globalTimestamps : List Int

namespace DemoSandbox

/-- A sandbox starts with no window. -/
def create (config : DemoSandboxConfig) : DemoSandbox := ⟨config, .empty, []⟩

def minuteMs : Int := 60000

def dayMs : Int := 86400000

/-- The timestamps of the last so many milliseconds. -/
def within (width now : Int) (timestamps : List Int) : List Int :=
  timestamps.filter fun t => now - width < t

/-- `Math.max(1, Math.ceil((oldest + width - now) / 1000))`. There may be no oldest one. -/
def retryAfterSeconds (timestamps : List Int) (width now : Int) : Number :=
  match timestamps with
  | oldest :: _ => .finite (max 1 (-(-(oldest + width - now) / 1000)) : Int)
  | [] => .nan

variable (sandbox : DemoSandbox)

/-- The recorded timestamps of an IP. -/
def timestampsOf (ip : String) : List Int :=
  ((sandbox.ipSlidingWindows.get? ip).map IpWindowData.timestamps).getD []

def checkRateLimit (ip : String) (now : Int) : DemoRateLimitResult :=
  let activeGlobal := within minuteMs now sandbox.globalTimestamps
  let ipTimestamps := within dayMs now (sandbox.timestampsOf ip)
  let ipMinuteTimestamps := within minuteMs now ipTimestamps
  let activeGlobalDay := within dayMs now sandbox.globalTimestamps
  let result : DemoRateLimitResult :=
    { allowed := true
      currentRpm := ipMinuteTimestamps.length
      rpmLimit := sandbox.config.ipRpmLimit
      currentRpd := ipTimestamps.length
      rpdLimit := sandbox.config.ipRpdLimit
      globalRpm := activeGlobal.length
      globalRpmLimit := sandbox.config.globalRpmLimit }
  let refused (timestamps : List Int) (width : Int) (reason : DemoRefusal) :
      DemoRateLimitResult :=
    { result with
      allowed := false
      retryAfterSeconds := some (retryAfterSeconds timestamps width now)
      reason := some reason }
  if sandbox.config.ipRpmLimit ≤ ipMinuteTimestamps.length then
    refused ipMinuteTimestamps minuteMs .ipRpmExceeded
  else if sandbox.config.ipRpdLimit ≤ ipTimestamps.length then
    refused ipTimestamps dayMs .ipRpdExceeded
  else if sandbox.config.globalRpmLimit ≤ activeGlobal.length then
    refused activeGlobal minuteMs .globalRpmExceeded
  else if sandbox.config.globalRpdLimit ≤ activeGlobalDay.length then
    refused activeGlobalDay dayMs .globalRpdExceeded
  else result

def recordRequest (ip : String) (now : Int) : DemoRateLimitResult × DemoSandbox :=
  let check := sandbox.checkRateLimit ip now
  if !check.allowed then (check, sandbox)
  else
    let globalTimestamps := within dayMs now sandbox.globalTimestamps ++ [now]
    let validTimestamps := within dayMs now (sandbox.timestampsOf ip) ++ [now]
    let ipMinuteTimestamps := within minuteMs now validTimestamps
    ({ allowed := true
       currentRpm := ipMinuteTimestamps.length
       rpmLimit := sandbox.config.ipRpmLimit
       currentRpd := validTimestamps.length
       rpdLimit := sandbox.config.ipRpdLimit
       globalRpm := globalTimestamps.length
       globalRpmLimit := sandbox.config.globalRpmLimit },
      { sandbox with
        globalTimestamps
        ipSlidingWindows := sandbox.ipSlidingWindows.set
          { ip
            requests := validTimestamps.length
            windowStart := now
            timestamps := validTimestamps
            minuteWindowStart := now - minuteMs
            minuteRequests := ipMinuteTimestamps.length
            dayWindowStart := now - dayMs
            dayRequests := validTimestamps.length } })

/-- The window has been idle for too long. -/
def isStale (now : Int) (data : IpWindowData) : Bool :=
  data.windowStart < now - sandbox.config.stalePruneMs

def pruneStaleWindows (now : Int) : DemoSandbox :=
  { sandbox with
    ipSlidingWindows := sandbox.ipSlidingWindows.filter fun data => !sandbox.isStale now data }

/-- A check allows a request exactly when all four counts are below their limits. -/
theorem checkRateLimit_allowed_iff (ip : String) (now : Int) :
    (sandbox.checkRateLimit ip now).allowed = true ↔
      (within minuteMs now (within dayMs now (sandbox.timestampsOf ip))).length <
          sandbox.config.ipRpmLimit ∧
        (within dayMs now (sandbox.timestampsOf ip)).length < sandbox.config.ipRpdLimit ∧
        (within minuteMs now sandbox.globalTimestamps).length < sandbox.config.globalRpmLimit ∧
        (within dayMs now sandbox.globalTimestamps).length < sandbox.config.globalRpdLimit := by
  unfold checkRateLimit
  simp only
  split_ifs with ipRpm ipRpd globalRpm globalRpd
  · simp [not_lt.mpr ipRpm]
  · simp [not_lt.mpr ipRpd]
  · simp [not_lt.mpr globalRpm]
  · simp [not_lt.mpr globalRpd]
  · simp only [not_le] at ipRpm ipRpd globalRpm globalRpd
    simp [ipRpm, ipRpd, globalRpm, globalRpd]

theorem timestampsOf_record {ip : String} {now : Int}
    (allowed : (sandbox.checkRateLimit ip now).allowed = true) (other : String) :
    (sandbox.recordRequest ip now).2.timestampsOf other =
      if ip = other then within dayMs now (sandbox.timestampsOf ip) ++ [now]
      else sandbox.timestampsOf other := by
  simp only [recordRequest, allowed, Bool.not_true, Bool.false_eq_true, if_false, timestampsOf,
    IndexedMap.get?_set]
  by_cases same : ip = other
  · rw [if_pos same, if_pos same]
    rfl
  · rw [if_neg same, if_neg same]

end DemoSandbox

/-! ## The object -/

structure TokenValidationResult where
  valid : Bool
  reason : Option String := none
deriving DecidableEq, Repr

def validateDemoToken (token currentToken : String) (tokenExpiresAt now : Int) :
    TokenValidationResult :=
  if token = "" then ⟨false, some "Missing or invalid token format"⟩
  else if !startsWith token "kc_demo_" then
    ⟨false, some "Invalid token prefix: expected kc_demo_"⟩
  else if token ≠ currentToken then ⟨false, some "Demo token is invalid or has rotated"⟩
  else if tokenExpiresAt ≤ now then ⟨false, some "Demo token has expired"⟩
  else ⟨true, none⟩

structure CheckAndConsumeResult where
  allowed : Bool
  status : Nat
  message : String
  retryAfterSeconds : Option Number := none
  rateLimit : Option DemoRateLimitResult := none
deriving DecidableEq

structure DemoDO where
  rotationIntervalMs : Int
  currentToken : String
  tokenExpiresAt : Int
  sandbox : DemoSandbox

namespace DemoDO

/-- The object with the token it has restored from storage or made. -/
def create (config : DemoSandboxConfig) (rotationIntervalMs : Int) (token : String)
    (tokenExpiresAt : Int) : DemoDO :=
  ⟨rotationIntervalMs, token, tokenExpiresAt, .create config⟩

variable (object : DemoDO)

/-- `rotateToken`, with the token the host has generated. An alarm does no more. -/
def rotateToken (token : String) (now : Int) : DemoDO :=
  { object with
    currentToken := token
    tokenExpiresAt := now + object.rotationIntervalMs
    sandbox := object.sandbox.pruneStaleWindows now }

def saturated : Option DemoRefusal → String
  | some .globalRpmExceeded => "Demo pool saturated: 5 RPM global limit. Try again in 30s."
  | some .globalRpdExceeded =>
    "Demo pool saturated: 20 RPD global limit reached today. Please sign in or wait."
  | some .ipRpdExceeded => "IP demo quota exceeded (5 RPD limit). Please sign in or wait."
  | _ => "IP demo quota exceeded (1 RPM limit). Please sign in or wait."

/-- The token is validated at one time and the request recorded at a later one. -/
def checkAndConsume (ip token : String) (validatedAt now : Int) : CheckAndConsumeResult × DemoDO :=
  let tokenValidation :=
    validateDemoToken token object.currentToken object.tokenExpiresAt validatedAt
  if !tokenValidation.valid then
    ({ allowed := false, status := 401
       message := tokenValidation.reason.getD "Demo token expired or invalid" }, object)
  else
    let (rateLimit, sandbox) := object.sandbox.recordRequest ip now
    if !rateLimit.allowed then
      ({ allowed := false, status := 429, message := saturated rateLimit.reason
         retryAfterSeconds := rateLimit.retryAfterSeconds, rateLimit := some rateLimit },
        { object with sandbox })
    else
      ({ allowed := true, status := 200, message := "Request allowed", rateLimit := some rateLimit },
        { object with sandbox })

end DemoDO

end KeyCollective
