import KeyCollective.Breaker.CircuitBreaker
import KeyCollective.Host
import KeyCollective.Limiter.RateLimiter

/-!
# Triage

Every candidate is checked in order: its static status, its circuit breaker, the
limiter. The reads load counters and half-open breakers as they go, but what a
key is found to be depends only on what a reader at that instant sees.
-/

namespace KeyCollective

/-- What the selector reads of a stored key. -/
class SelectableKey (κ : Type) where
  id : κ → String
  provider : κ → String
  priority : κ → Option Int
  status : κ → Option String
  rpmLimit : κ → Option Int
  rpdLimit : κ → Option Int
  circuitOpenUntil : κ → Option Int

inductive TriageReason where
  | disabled
  | invalid
  | exhausted
  | circuitBreakerOpen
  | rateLimitExceeded
  | budgetExceeded
deriving DecidableEq, Repr

structure KeyTriageItem (κ : Type) where
  key : κ
  reason : TriageReason
  retryAfterSeconds : Option Nat := none
  circuitOpenUntil : Option Int := none
  circuitBreakerState : Option CircuitBreakerState := none
  currentRpm : Option Nat := none
  remainingRpm : Option Nat := none
deriving DecidableEq

/-- What triage finds of one key. -/
inductive Verdict (κ : Type) where
  | healthy
  | disabled (item : KeyTriageItem κ)
  | circuitBroken (item : KeyTriageItem κ)
  | rateLimited (item : KeyTriageItem κ)
deriving DecidableEq

structure KeyTriageResult (κ : Type) where
  provider : Option String
  totalKeys : Nat
  healthyKeys : List κ
  unhealthyKeys : List (KeyTriageItem κ)
  rateLimitedKeys : List (KeyTriageItem κ)
  circuitBrokenKeys : List (KeyTriageItem κ)
  disabledKeys : List (KeyTriageItem κ)
  minRetryAfterSeconds : Nat

/-- The breakers and counters of a pool's keys. -/
structure KeyHealth where
  breaker : CircuitBreaker.Store
  limiter : RateLimiter.Store

structure TriageContext where
  costMicrodollars : Int
  circuitBreaker : Option CircuitBreaker
  rateLimiter : Option RateLimiter
  now : Int

variable [Host]

/-- The reason a static status rules a key out. -/
def isStatusPermitted (status : Option String) : Option TriageReason :=
  if isFalsy status then none
  else
    let s := Host.toLowerCase (status.getD "")
    if s = "disabled" then some .disabled
    else if s = "invalid" then some .invalid
    else if s = "exhausted" then some .exhausted
    else none

variable {κ : Type} [SelectableKey κ] (ctx : TriageContext)

/-- An open breaker's item. -/
def brokenItem (key : κ) (retryAfter : Nat) (openUntil : Option Int)
    (state : CircuitBreakerState) : KeyTriageItem κ where
  key
  reason := .circuitBreakerOpen
  retryAfterSeconds := some (if 0 < retryAfter then retryAfter else defaultRetryAfterSeconds)
  circuitOpenUntil := openUntil
  circuitBreakerState := some state

/-- Without a circuit breaker, the item of a key whose own `circuitOpenUntil` lies ahead. -/
def ownCircuit (key : κ) : Option (KeyTriageItem κ) :=
  match SelectableKey.circuitOpenUntil key with
  | some openUntilMs =>
    if ctx.now < openUntilMs then
      some (brokenItem key (max 1 (ceilSeconds (openUntilMs - ctx.now))) (some openUntilMs) .open)
    else none
  | none => none

/-- The circuit breaker's item when it bars the key. -/
def breakerCheck (key : κ) (health : KeyHealth) : Option (KeyTriageItem κ) × KeyHealth :=
  let id := some (SelectableKey.id key)
  match ctx.circuitBreaker with
  | some b =>
    let (cbAllowed, s) := b.canExecute health.breaker id ctx.now
    let (cbState, s) := b.getState s id ctx.now
    if cbAllowed then (none, { health with breaker := s })
    else
      let (cbRetryAfter, s) := b.getRetryAfterSeconds s id ctx.now
      let (cbOpenUntil, s) := b.getCircuitOpenUntil s id ctx.now
      (some (brokenItem key cbRetryAfter cbOpenUntil cbState), { health with breaker := s })
  | none => (ownCircuit ctx key, health)

/-- A refused key's item. -/
def limitedItem (key : κ) (result : RateLimitCheckResult) : KeyTriageItem κ where
  key
  reason := if result.reason = some .budgetExceeded then .budgetExceeded else .rateLimitExceeded
  retryAfterSeconds := some
    (if 0 < result.retryAfterSeconds then result.retryAfterSeconds else defaultRetryAfterSeconds)
  currentRpm := some result.currentRpm
  remainingRpm := some (result.rpmLimit - result.currentRpm)

/-- The limiter's item when it refuses the key. -/
def limiterCheck (key : κ) (health : KeyHealth) : Option (KeyTriageItem κ) × KeyHealth :=
  match ctx.rateLimiter with
  | some r =>
    let (result, s) := r.checkLimitDetailed health.limiter (some (SelectableKey.id key))
      ctx.costMicrodollars ctx.now
    (if result.allowed then none else some (limitedItem key result), { health with limiter := s })
  | none => (none, health)

/-- One pass of the triage loop. -/
def triageKey (key : κ) (health : KeyHealth) : Verdict κ × KeyHealth :=
  match isStatusPermitted (SelectableKey.status key) with
  | some reason => (.disabled { key, reason }, health)
  | none =>
    let (broken, health) := breakerCheck ctx key health
    match broken with
    | some item => (.circuitBroken item, health)
    | none =>
      let (limited, health) := limiterCheck ctx key health
      match limited with
      | some item => (.rateLimited item, health)
      | none => (.healthy, health)

def triageLoop : List κ → KeyHealth → List (κ × Verdict κ) × KeyHealth
  | [], health => ([], health)
  | key :: rest, health =>
    let (verdict, health) := triageKey ctx key health
    let (verdicts, health) := triageLoop rest health
    ((key, verdict) :: verdicts, health)

namespace Verdict

def rateLimitedItem : Verdict κ → Option (KeyTriageItem κ)
  | rateLimited item => some item
  | _ => none

def circuitBrokenItem : Verdict κ → Option (KeyTriageItem κ)
  | circuitBroken item => some item
  | _ => none

def disabledItem : Verdict κ → Option (KeyTriageItem κ)
  | disabled item => some item
  | _ => none

def unhealthyItem : Verdict κ → Option (KeyTriageItem κ)
  | healthy => none
  | disabled item | circuitBroken item | rateLimited item => some item

def isHealthy : Verdict κ → Bool
  | healthy => true
  | _ => false

/-- Static refusals put nothing into the retry delays. -/
def retryDelay : Verdict κ → Option Nat
  | circuitBroken item | rateLimited item => item.retryAfterSeconds
  | _ => none

end Verdict

def triageKeysAsync (provider : Option String) (candidates : List κ) (health : KeyHealth) :
    KeyTriageResult κ × KeyHealth :=
  let (verdicts, health) := triageLoop ctx candidates health
  ({ provider
     totalKeys := candidates.length
     healthyKeys := (verdicts.filter (·.2.isHealthy)).map Prod.fst
     unhealthyKeys := verdicts.filterMap (·.2.unhealthyItem)
     rateLimitedKeys := verdicts.filterMap (·.2.rateLimitedItem)
     circuitBrokenKeys := verdicts.filterMap (·.2.circuitBrokenItem)
     disabledKeys := verdicts.filterMap (·.2.disabledItem)
     minRetryAfterSeconds :=
       (verdicts.filterMap (·.2.retryDelay)).min?.getD defaultRetryAfterSeconds },
   health)

/-! ## What a key is found to be -/

/-- A reader at the triage instant sees the same breakers and counters in both. -/
structure SameViews (health later : KeyHealth) : Prop where
  breaker : ∀ b, ctx.circuitBreaker = some b → ∀ id,
    b.view later.breaker id ctx.now = b.view health.breaker id ctx.now
  limiter : ∀ r, ctx.rateLimiter = some r → ∀ id,
    r.view later.limiter id ctx.now = r.view health.limiter id ctx.now

omit [Host] in
theorem SameViews.refl (health : KeyHealth) : SameViews ctx health health :=
  ⟨fun _ _ _ => rfl, fun _ _ _ => rfl⟩

variable {ctx}

omit [Host] in
theorem SameViews.trans {first second third : KeyHealth} (h : SameViews ctx first second)
    (h' : SameViews ctx second third) : SameViews ctx first third where
  breaker b hb id := (h'.breaker b hb id).trans (h.breaker b hb id)
  limiter r hr id := (h'.limiter r hr id).trans (h.limiter r hr id)

variable (ctx)

/-- What the breaker says of a key in the state a reader sees. -/
def breakerFinding (key : κ) (health : KeyHealth) : Option (KeyTriageItem κ) :=
  match ctx.circuitBreaker with
  | some b =>
    let data := b.view health.breaker (SelectableKey.id key) ctx.now
    if data.permits then none
    else some (brokenItem key (b.retryAfter data ctx.now) (b.openUntil data) data.state)
  | none => ownCircuit ctx key

/-- What the limiter says of a key on the counters a reader sees. -/
def limiterFinding (key : κ) (health : KeyHealth) : Option (KeyTriageItem κ) :=
  match ctx.rateLimiter with
  | some r =>
    let result := r.evaluate (r.view health.limiter (SelectableKey.id key) ctx.now) ctx.now
      ctx.costMicrodollars
    if result.allowed then none else some (limitedItem key result)
  | none => none

/-- The verdict on a key, read off one state. -/
def verdict (health : KeyHealth) (key : κ) : Verdict κ :=
  match isStatusPermitted (SelectableKey.status key) with
  | some reason => .disabled { key, reason }
  | none =>
    match breakerFinding ctx key health with
    | some item => .circuitBroken item
    | none =>
      match limiterFinding ctx key health with
      | some item => .rateLimited item
      | none => .healthy

omit [Host] in
theorem breakerCheck_eq (key : κ) (health : KeyHealth) :
    (breakerCheck ctx key health).1 = breakerFinding ctx key health ∧
      SameViews ctx health (breakerCheck ctx key health).2 := by
  cases hb : ctx.circuitBreaker with
  | none => simp only [breakerCheck, breakerFinding, hb, SameViews.refl, and_self]
  | some b =>
    by_cases permits :
        (b.view health.breaker (SelectableKey.id key) ctx.now).permits = true
    · refine ⟨?_, ⟨fun b' hb' id => ?_, fun _ _ _ => ?_⟩⟩
      · simp [breakerCheck, breakerFinding, hb, CircuitBreaker.canExecute, CircuitBreaker.getState,
          permits]
      · obtain rfl : b = b' := Option.some.inj (hb.symm.trans hb')
        simp [breakerCheck, hb, CircuitBreaker.canExecute, CircuitBreaker.getState, permits]
      · simp [breakerCheck, hb, CircuitBreaker.canExecute, CircuitBreaker.getState, permits]
    · refine ⟨?_, ⟨fun b' hb' id => ?_, fun _ _ _ => ?_⟩⟩
      · simp [breakerCheck, breakerFinding, hb, CircuitBreaker.canExecute, CircuitBreaker.getState,
          CircuitBreaker.getRetryAfterSeconds, CircuitBreaker.getCircuitOpenUntil, permits]
      · obtain rfl : b = b' := Option.some.inj (hb.symm.trans hb')
        simp [breakerCheck, hb, CircuitBreaker.canExecute, CircuitBreaker.getState,
          CircuitBreaker.getRetryAfterSeconds, CircuitBreaker.getCircuitOpenUntil, permits]
      · simp [breakerCheck, hb, CircuitBreaker.canExecute, CircuitBreaker.getState,
          CircuitBreaker.getRetryAfterSeconds, CircuitBreaker.getCircuitOpenUntil, permits]

omit [Host] in
theorem limiterCheck_eq (key : κ) (health : KeyHealth) :
    (limiterCheck ctx key health).1 = limiterFinding ctx key health ∧
      SameViews ctx health (limiterCheck ctx key health).2 := by
  cases hr : ctx.rateLimiter with
  | none => simp only [limiterCheck, limiterFinding, hr, SameViews.refl, and_self]
  | some r =>
    refine ⟨?_, ⟨fun _ _ _ => ?_, fun r' hr' id => ?_⟩⟩
    · simp only [limiterCheck, limiterFinding, hr, RateLimiter.checkLimitDetailed,
        RateLimiter.getData_fst, RateLimiter.resolveKeyId_some]
      rfl
    · simp [limiterCheck, hr]
    · obtain rfl : r = r' := Option.some.inj (hr.symm.trans hr')
      simp [limiterCheck, hr, RateLimiter.checkLimitDetailed]

omit [Host] in
theorem breakerFinding_congr {health later : KeyHealth} (same : SameViews ctx health later)
    (key : κ) : breakerFinding ctx key later = breakerFinding ctx key health := by
  cases hb : ctx.circuitBreaker with
  | none => simp only [breakerFinding, hb]
  | some b => simp only [breakerFinding, hb, same.breaker b hb]

omit [Host] in
theorem limiterFinding_congr {health later : KeyHealth} (same : SameViews ctx health later)
    (key : κ) : limiterFinding ctx key later = limiterFinding ctx key health := by
  cases hr : ctx.rateLimiter with
  | none => simp only [limiterFinding, hr]
  | some r => simp only [limiterFinding, hr, same.limiter r hr]

theorem verdict_congr {health later : KeyHealth} (same : SameViews ctx health later) (key : κ) :
    verdict ctx later key = verdict ctx health key := by
  rw [verdict, verdict, breakerFinding_congr ctx same, limiterFinding_congr ctx same]

theorem triageKey_eq (key : κ) (health : KeyHealth) :
    (triageKey ctx key health).1 = verdict ctx health key ∧
      SameViews ctx health (triageKey ctx key health).2 := by
  unfold triageKey verdict
  cases isStatusPermitted (SelectableKey.status key) with
  | some reason => exact ⟨rfl, .refl ctx health⟩
  | none =>
    obtain ⟨found, seen⟩ := breakerCheck_eq ctx key health
    simp only [found]
    cases breakerFinding ctx key health with
    | some item => exact ⟨rfl, seen⟩
    | none =>
      obtain ⟨found', seen'⟩ := limiterCheck_eq ctx key (breakerCheck ctx key health).2
      rw [limiterFinding_congr ctx seen] at found'
      simp only [found']
      cases limiterFinding ctx key health <;> exact ⟨rfl, seen.trans seen'⟩

/-- The loop finds of every candidate what the state it started in says of it. -/
theorem triageLoop_eq (candidates : List κ) (health : KeyHealth) :
    (triageLoop ctx candidates health).1 =
        candidates.map (fun key => (key, verdict ctx health key)) ∧
      SameViews ctx health (triageLoop ctx candidates health).2 := by
  induction candidates generalizing health with
  | nil => exact ⟨rfl, .refl ctx health⟩
  | cons key rest ih =>
    obtain ⟨found, seen⟩ := triageKey_eq ctx key health
    obtain ⟨founds, seens⟩ := ih (triageKey ctx key health).2
    refine ⟨?_, seen.trans seens⟩
    simp only [triageLoop, found, founds, List.map_cons, verdict_congr ctx seen]

variable (provider : Option String)

theorem triage_sameViews (candidates : List κ) (health : KeyHealth) :
    SameViews ctx health (triageKeysAsync ctx provider candidates health).2 :=
  (triageLoop_eq ctx candidates health).2

/-- The healthy keys are the candidates with nothing against them, in order. -/
theorem healthyKeys_eq (candidates : List κ) (health : KeyHealth) :
    (triageKeysAsync ctx provider candidates health).1.healthyKeys =
      candidates.filter fun key => (verdict ctx health key).isHealthy := by
  simp only [triageKeysAsync, (triageLoop_eq ctx candidates health).1, List.filter_map,
    List.map_map]
  exact List.map_id _

theorem mem_rateLimitedKeys {candidates : List κ} {health : KeyHealth}
    {item : KeyTriageItem κ} :
    item ∈ (triageKeysAsync ctx provider candidates health).1.rateLimitedKeys ↔
      ∃ key ∈ candidates, (verdict ctx health key).rateLimitedItem = some item := by
  simp only [triageKeysAsync, (triageLoop_eq ctx candidates health).1, List.filterMap_map,
    List.mem_filterMap, Function.comp_apply]

/-- A healthy key passes the static check, the breaker and the limiter. -/
theorem verdict_isHealthy_iff (health : KeyHealth) (key : κ) :
    (verdict ctx health key).isHealthy = true ↔
      isStatusPermitted (SelectableKey.status key) = none ∧
      breakerFinding ctx key health = none ∧ limiterFinding ctx key health = none := by
  unfold verdict
  cases isStatusPermitted (SelectableKey.status key) with
  | some reason => simp [Verdict.isHealthy]
  | none =>
    cases breakerFinding ctx key health with
    | some item => simp [Verdict.isHealthy]
    | none => cases limiterFinding ctx key health <;> simp [Verdict.isHealthy]

omit [Host] in
theorem limiterFinding_eq_none {r : RateLimiter} (hr : ctx.rateLimiter = some r) (key : κ)
    (health : KeyHealth) :
    limiterFinding ctx key health = none ↔
      (r.evaluate (r.view health.limiter (SelectableKey.id key) ctx.now) ctx.now
        ctx.costMicrodollars).allowed = true := by
  simp [limiterFinding, hr]

/-! ## Reads -/

/-- `P` survives any read of the counters at `now`. -/
def KeptByReads (rateLimiter : Option RateLimiter) (now : Int) (P : RateLimiter.Store → Prop) :
    Prop :=
  ∀ r, rateLimiter = some r → ∀ s keyId, P s → P (r.getData s keyId now).2

variable {ctx} {P : RateLimiter.Store → Prop}

omit [Host] in
theorem breakerCheck_limiter (key : κ) (health : KeyHealth) :
    (breakerCheck ctx key health).2.limiter = health.limiter := by
  cases hb : ctx.circuitBreaker with
  | none => simp only [breakerCheck, hb]
  | some b =>
    simp only [breakerCheck, hb]
    split <;> rfl

omit [Host] in
theorem limiterCheck_keeps (kept : KeptByReads ctx.rateLimiter ctx.now P) (key : κ)
    (health : KeyHealth) (before : P health.limiter) :
    P (limiterCheck ctx key health).2.limiter := by
  cases hr : ctx.rateLimiter with
  | none =>
    simp only [limiterCheck, hr]
    exact before
  | some r =>
    simp only [limiterCheck, hr]
    exact kept r hr _ _ before

theorem triageKey_keeps (kept : KeptByReads ctx.rateLimiter ctx.now P) (key : κ)
    (health : KeyHealth) (before : P health.limiter) :
    P (triageKey ctx key health).2.limiter := by
  have broken : P (breakerCheck ctx key health).2.limiter := by
    rw [breakerCheck_limiter]
    exact before
  simp only [triageKey]
  split
  · exact before
  · split
    · exact broken
    · split
      · exact limiterCheck_keeps kept key _ broken
      · exact limiterCheck_keeps kept key _ broken

theorem triage_keeps (kept : KeptByReads ctx.rateLimiter ctx.now P) (provider : Option String)
    (candidates : List κ) (health : KeyHealth) (before : P health.limiter) :
    P (triageKeysAsync ctx provider candidates health).2.limiter := by
  have loop : P (triageLoop ctx candidates health).2.limiter := by
    induction candidates generalizing health with
    | nil => exact before
    | cons key rest ih => exact ih _ (triageKey_keeps kept key health before)
  exact loop

end KeyCollective
