import KeyCollective.Breaker.StateMachine
import KeyCollective.Lib.CachedStore

/-!
# CircuitBreaker

The breakers of a pool's keys, cached in memory over durable storage. A read
evaluates the cooldown and writes the state through when it half-opens.
-/

namespace KeyCollective

structure CircuitBreakerOptions where
  keyId : Option String := none
  failureThreshold : Option Nat := none
  cooldownSeconds : Option Int := none
  halfOpenSuccessThreshold : Option Nat := none
  trippingStatusCodes : Option (List Nat) := none
  storageKeyPrefix : Option String := none

structure CircuitBreaker where
  defaultKeyId : String
  failureThreshold : Nat
  cooldownSeconds : Int
  halfOpenSuccessThreshold : Nat
  trippingStatusCodes : List Nat
  storageKeyPrefix : String

namespace CircuitBreaker

def create (opts : CircuitBreakerOptions) : CircuitBreaker where
  defaultKeyId := opts.keyId.getD "default"
  failureThreshold := opts.failureThreshold.getD defaultCircuitBreakerThreshold
  cooldownSeconds := opts.cooldownSeconds.getD defaultCircuitBreakerCooldownSeconds
  halfOpenSuccessThreshold :=
    opts.halfOpenSuccessThreshold.getD defaultCircuitBreakerHalfOpenSuccessThreshold
  trippingStatusCodes :=
    opts.trippingStatusCodes.getD defaultCircuitBreakerTrippingStatusCodes
  storageKeyPrefix := opts.storageKeyPrefix.getD "cb:"

def cooldownMs (b : CircuitBreaker) : Int := b.cooldownSeconds * 1000

abbrev Store := CachedStore String String CircuitBreakerData

def getStorageKey (b : CircuitBreaker) (keyId : String) : String := b.storageKeyPrefix ++ keyId

def resolveKeyId (b : CircuitBreaker) (keyId : Option String) : String := keyId.getD b.defaultKeyId

variable (b : CircuitBreaker)

def load (s : Store) (id : String) : CircuitBreakerData :=
  s.load b.getStorageKey createDefaultCircuitBreakerData id

/-- The state a reader at `now` is given. -/
def view (s : Store) (id : String) (now : Int) : CircuitBreakerData :=
  (b.load s id).evaluateCooldown now b.cooldownMs

def getData (s : Store) (keyId : Option String) (now : Int) : CircuitBreakerData × Store :=
  let id := b.resolveKeyId keyId
  let loaded := b.load s id
  let data := loaded.evaluateCooldown now b.cooldownMs
  (data, if loaded.cooled now b.cooldownMs then s.save b.getStorageKey id data
    else s.setCache id data)

/-- Reads the cache only, and does not write the half-opened state through. -/
def getDataSync (s : Store) (keyId : Option String) (now : Int) :
    Option CircuitBreakerData × Store :=
  let id := b.resolveKeyId keyId
  match s.cache id with
  | some cached =>
    let data := cached.evaluateCooldown now b.cooldownMs
    (some data, s.setCache id data)
  | none => (none, s)

@[simp] theorem getData_fst (s : Store) (keyId : Option String) (now : Int) :
    (b.getData s keyId now).1 = b.view s (b.resolveKeyId keyId) now := rfl

def getState (s : Store) (keyId : Option String) (now : Int) : CircuitBreakerState × Store :=
  let (data, s) := b.getData s keyId now
  (data.state, s)

def getStateSync (s : Store) (keyId : Option String) (now : Int) :
    CircuitBreakerState × Store :=
  let (data, s) := b.getDataSync s keyId now
  ((data.map CircuitBreakerData.state).getD .closed, s)

def canExecute (s : Store) (keyId : Option String) (now : Int) : Bool × Store :=
  let (data, s) := b.getData s keyId now
  (data.permits, s)

def canExecuteSync (s : Store) (keyId : Option String) (now : Int) : Bool × Store :=
  let (data, s) := b.getDataSync s keyId now
  (data.all CircuitBreakerData.permits, s)

/-- Read a key's state, apply a transition and write it through. -/
def update (transition : CircuitBreakerData → CircuitBreakerData) (s : Store)
    (keyId : Option String) (now : Int) : Store :=
  let id := b.resolveKeyId keyId
  let (data, s) := b.getData s (some id) now
  s.save b.getStorageKey id (transition data)

def trip (s : Store) (keyId : Option String) (now : Int) : Store :=
  b.update (·.applyTrip now b.failureThreshold) s keyId now

def reset (s : Store) (keyId : Option String) (now : Int) : Store :=
  b.update (·.applyReset) s keyId now

def recordSuccess (s : Store) (keyId : Option String) (now : Int) : Store :=
  b.update (·.applySuccess now b.halfOpenSuccessThreshold) s keyId now

def recordFailure (s : Store) (keyId : Option String) (now : Int) : Store :=
  b.update (·.applyFailure now b.failureThreshold) s keyId now

def recordResult (s : Store) (keyId : String) (success : Bool) (now : Int) : Store :=
  if success then b.recordSuccess s (some keyId) now else b.recordFailure s (some keyId) now

/-- Tripping codes count as failures and 2xx as success; every other status is neutral. -/
def recordStatusCode (s : Store) (keyId : String) (statusCode : Nat) (now : Int) : Store :=
  if statusCode ∈ b.trippingStatusCodes then b.recordFailure s (some keyId) now
  else if 200 ≤ statusCode ∧ statusCode < 300 then b.recordSuccess s (some keyId) now
  else s

/-- The instant an open breaker half-opens. -/
def openUntil (data : CircuitBreakerData) : Option Int :=
  if data.state = .open then data.openedAt.map (· + b.cooldownMs) else none

/-- `Math.ceil` of the seconds an open breaker has left. -/
def retryAfter (data : CircuitBreakerData) (now : Int) : Nat :=
  match b.openUntil data with
  | some instant => if 0 < instant - now then ((instant - now + 999) / 1000).toNat else 0
  | none => 0

def getCircuitOpenUntil (s : Store) (keyId : Option String) (now : Int) : Option Int × Store :=
  let (data, s) := b.getData s keyId now
  (b.openUntil data, s)

def getRetryAfterSeconds (s : Store) (keyId : Option String) (now : Int) : Nat × Store :=
  let (data, s) := b.getData s keyId now
  (b.retryAfter data now, s)

def clearMemoryCache (s : Store) : Store := s.evict

theorem getStorageKey_injective : Function.Injective b.getStorageKey :=
  fun _ _ same => (String.append_right_inj b.storageKeyPrefix).mp same

@[simp] theorem resolveKeyId_some (id : String) : b.resolveKeyId (some id) = id := rfl

theorem load_getData_self (s : Store) (keyId : Option String) (now : Int) :
    b.load (b.getData s keyId now).2 (b.resolveKeyId keyId) = (b.getData s keyId now).1 := by
  by_cases elapsed : (b.load s (b.resolveKeyId keyId)).cooled now b.cooldownMs = true
  · simp only [getData, elapsed, ↓reduceIte]
    exact CachedStore.load_save_self _ _ _
  · simp only [getData, elapsed]
    exact CachedStore.load_setCache_self _ _ _

theorem getData_agreeAt (s : Store) (keyId : Option String) (now : Int) {other : String}
    (h : other ≠ b.resolveKeyId keyId) :
    CachedStore.AgreeAt b.getStorageKey other (b.getData s keyId now).2 s := by
  by_cases elapsed : (b.load s (b.resolveKeyId keyId)).cooled now b.cooldownMs = true
  · simp only [getData, elapsed, ↓reduceIte]
    exact CachedStore.agreeAt_save b.getStorageKey_injective s _ h
  · simp only [getData, elapsed]
    exact CachedStore.agreeAt_setCache s _ h

/-- Reading at `now` changes nothing that a reader at `now` sees. -/
@[simp] theorem view_getData (s : Store) (keyId : Option String) (id : String) (now : Int) :
    b.view (b.getData s keyId now).2 id now = b.view s id now := by
  by_cases same : id = b.resolveKeyId keyId
  · subst same
    simp only [view, load_getData_self]
    exact CircuitBreakerData.evaluateCooldown_idem _ _ _
  · simp only [view, load, (b.getData_agreeAt s keyId now same).load]

theorem load_update (transition : CircuitBreakerData → CircuitBreakerData) (s : Store)
    (keyId : Option String) (now : Int) (id : String) :
    b.load (b.update transition s keyId now) id =
      if id = b.resolveKeyId keyId then
        transition (b.view s id now)
      else b.load s id := by
  split
  · rename_i same
    subst same
    simp only [update, load, CachedStore.load_save_self]
    rfl
  · rename_i other
    exact ((CachedStore.agreeAt_save b.getStorageKey_injective _ _ other).trans
      (b.getData_agreeAt s (some (b.resolveKeyId keyId)) now other)).load

/-- The transition of one reported result, on the state a reader at `now` is given. -/
def applyResult (now : Int) (data : CircuitBreakerData) (success : Bool) : CircuitBreakerData :=
  let data := data.evaluateCooldown now b.cooldownMs
  if success then data.applySuccess now b.halfOpenSuccessThreshold
  else data.applyFailure now b.failureThreshold

theorem load_recordResult (s : Store) (keyId : String) (success : Bool) (now : Int)
    (id : String) :
    b.load (b.recordResult s keyId success now) id =
      if id = keyId then b.applyResult now (b.load s id) success else b.load s id := by
  unfold recordResult
  cases success with
  | true => exact b.load_update (·.applySuccess now b.halfOpenSuccessThreshold) s _ now id
  | false => exact b.load_update (·.applyFailure now b.failureThreshold) s _ now id

/-- The results a status counts as: at most one. -/
def verdict (statusCode : Nat) : List Bool :=
  if statusCode ∈ b.trippingStatusCodes then [false]
  else if 200 ≤ statusCode ∧ statusCode < 300 then [true]
  else []

theorem load_recordStatusCode (s : Store) (keyId : String) (statusCode : Nat) (now : Int)
    (id : String) :
    b.load (b.recordStatusCode s keyId statusCode now) id =
      if id = keyId then (b.verdict statusCode).foldl (b.applyResult now) (b.load s id)
      else b.load s id := by
  unfold recordStatusCode verdict
  by_cases tripping : statusCode ∈ b.trippingStatusCodes
  · rw [if_pos tripping, if_pos tripping]
    exact b.load_recordResult s keyId false now id
  · rw [if_neg tripping, if_neg tripping]
    by_cases success : 200 ≤ statusCode ∧ statusCode < 300
    · rw [if_pos success, if_pos success]
      exact b.load_recordResult s keyId true now id
    · rw [if_neg success, if_neg success]
      exact (ite_self _).symm

theorem core_applyResult {data other : CircuitBreakerData} (same : data.core = other.core)
    (now : Int) (success : Bool) :
    (b.applyResult now data success).core = (b.applyResult now other success).core := by
  have cooled := CircuitBreakerData.core_evaluateCooldown same now b.cooldownMs
  cases success with
  | true => exact CircuitBreakerData.core_applySuccess cooled now _
  | false => exact CircuitBreakerData.core_applyFailure cooled now _

theorem core_foldl_applyResult {data other : CircuitBreakerData} (same : data.core = other.core)
    (now : Int) (results : List Bool) :
    (results.foldl (b.applyResult now) data).core =
      (results.foldl (b.applyResult now) other).core := by
  induction results generalizing data other with
  | nil => exact same
  | cons success rest ih => exact ih (b.core_applyResult same now success)

/-- A success of a calm breaker changes nothing it decides by. -/
theorem core_applyResult_calm {data : CircuitBreakerData} (calm : data.Calm) (now : Int) :
    (b.applyResult now data true).core = data.core := by
  have closed : data.state ≠ .open := by
    rw [calm.1]
    decide
  rw [applyResult, CircuitBreakerData.evaluateCooldown_of_not_open now _ closed]
  exact CircuitBreakerData.core_applySuccess_calm calm now _

/-- Counting a success twice is counting it once, on a breaker the first one closes. -/
theorem core_applyResult_twice {data : CircuitBreakerData} {now : Int}
    (closing : (data.evaluateCooldown now b.cooldownMs).Closing b.halfOpenSuccessThreshold)
    (later : Int) :
    (b.applyResult later (b.applyResult now data true) true).core =
      (b.applyResult now data true).core :=
  b.core_applyResult_calm (CircuitBreakerData.calm_applySuccess closing now) later

end CircuitBreaker

end KeyCollective
