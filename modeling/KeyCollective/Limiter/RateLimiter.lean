import KeyCollective.Lib.CachedStore
import KeyCollective.Limiter.Window

/-!
# RateLimiter

One limiter holds the counters of every key of a pool, cached in memory and
written through to durable storage on every increment. Each call reads the clock
once: no time passes inside a Durable Object between two awaits on storage.
-/

namespace KeyCollective

open SlidingWindow

structure RateLimiterOptions where
  keyId : Option String := none
  rpmLimit : Option Nat := none
  rpdLimit : Option Nat := none
  windowSizeSeconds : Option Int := none
  dayWindowSeconds : Option Int := none
  maxBudgetMicrodollars : Option Int := none
  storageKeyPrefix : Option String := none
  defaultRpmLimit : Option Nat := none
  defaultRpdLimit : Option Nat := none

structure RateLimiter where
  defaultKeyId : String
  rpmLimit : Nat
  rpdLimit : Nat
  windowSizeSeconds : Int
  dayWindowSeconds : Int
  maxBudgetMicrodollars : Option Int
  storageKeyPrefix : String

inductive LimitReason where
  | rpmLimitExceeded
  | rpdLimitExceeded
  | budgetExceeded
deriving DecidableEq, Repr

structure RateLimitCheckResult where
  allowed : Bool
  currentRpm : Nat
  rpmLimit : Nat
  currentRpd : Nat
  rpdLimit : Nat
  costAccumulatedMicrodollars : Int
  maxBudgetMicrodollars : Option Int
  retryAfterSeconds : Nat
  reason : Option LimitReason
deriving DecidableEq, Repr

namespace RateLimiter

/-- The constructor: tenant options first, then the shared configuration, then the defaults. -/
def create (opts : RateLimiterOptions) : RateLimiter where
  defaultKeyId := opts.keyId.getD "default"
  rpmLimit := (opts.rpmLimit.or opts.defaultRpmLimit).getD KeyCollective.defaultRpmLimit
  rpdLimit := (opts.rpdLimit.or opts.defaultRpdLimit).getD KeyCollective.defaultRpdLimit
  windowSizeSeconds := opts.windowSizeSeconds.getD defaultWindowSizeSeconds
  dayWindowSeconds := opts.dayWindowSeconds.getD oneDaySeconds
  maxBudgetMicrodollars := opts.maxBudgetMicrodollars
  storageKeyPrefix := opts.storageKeyPrefix.getD "rl:"

def windowSizeMs (r : RateLimiter) : Int := r.windowSizeSeconds * 1000

def dayWindowMs (r : RateLimiter) : Int := r.dayWindowSeconds * 1000

/-- The in-memory cache per key id over the storage keys. -/
abbrev Store := CachedStore String String RateLimiterData

def getStorageKey (r : RateLimiter) (keyId : String) : String := r.storageKeyPrefix ++ keyId

def resolveKeyId (r : RateLimiter) (keyId : Option String) : String := keyId.getD r.defaultKeyId

variable (r : RateLimiter)

/-- The counters of a key, from the cache or from storage. -/
def load (s : Store) (id : String) : RateLimiterData :=
  s.load r.getStorageKey createDefaultRateLimiterData id

def prune (data : RateLimiterData) (now : Int) : RateLimiterData :=
  pruneExpiredEntries data now r.dayWindowMs

/-- The counters a reader at `now` is given. -/
def view (s : Store) (id : String) (now : Int) : RateLimiterData := r.prune (r.load s id) now

def getData (s : Store) (keyId : Option String) (now : Int) : RateLimiterData × Store :=
  let id := r.resolveKeyId keyId
  let data := r.view s id now
  (data, s.setCache id data)

/-- Reads the cache only. -/
def getDataSync (s : Store) (keyId : Option String) (now : Int) :
    Option RateLimiterData × Store :=
  let id := r.resolveKeyId keyId
  match s.cache id with
  | some cached =>
    let data := r.prune cached now
    (some data, s.setCache id data)
  | none => (none, s)

/-- The checks on pruned counters: requests per minute, then per day, then the budget. -/
def evaluate (data : RateLimiterData) (now costMicrodollars : Int) : RateLimitCheckResult :=
  let currentRpm := calculateRpm data now r.windowSizeMs
  let currentRpd := calculateRpd data now r.dayWindowMs
  let result (allowed : Bool) (retryAfterSeconds : Nat) (reason : Option LimitReason) :
      RateLimitCheckResult :=
    { allowed, currentRpm, rpmLimit := r.rpmLimit, currentRpd, rpdLimit := r.rpdLimit,
      costAccumulatedMicrodollars := data.totalCostMicrodollars,
      maxBudgetMicrodollars := r.maxBudgetMicrodollars, retryAfterSeconds, reason }
  if r.rpmLimit ≤ currentRpm then
    result false (calculateRpmRetryAfter data now r.windowSizeMs) (some .rpmLimitExceeded)
  else if r.rpdLimit ≤ currentRpd then
    result false (calculateRpdRetryAfter data now r.dayWindowMs) (some .rpdLimitExceeded)
  else match r.maxBudgetMicrodollars with
    | some budget =>
      if budget < data.totalCostMicrodollars + costMicrodollars then
        result false defaultRetryAfterSeconds (some .budgetExceeded)
      else result true 0 none
    | none => result true 0 none

def checkLimitDetailed (s : Store) (keyId : Option String) (costMicrodollars now : Int) :
    RateLimitCheckResult × Store :=
  let (data, s) := r.getData s keyId now
  (r.evaluate data now costMicrodollars, s)

def checkLimit (s : Store) (keyId : Option String) (costMicrodollars now : Int) : Bool × Store :=
  let (result, s) := r.checkLimitDetailed s keyId costMicrodollars now
  (result.allowed, s)

/-- The checks of `checkLimitSync`, in the same order. -/
def evaluateSync (data : RateLimiterData) (now costMicrodollars : Int) : Bool :=
  if r.rpmLimit ≤ calculateRpm data now r.windowSizeMs then false
  else if r.rpdLimit ≤ calculateRpd data now r.dayWindowMs then false
  else match r.maxBudgetMicrodollars with
    | some budget =>
      if budget < data.totalCostMicrodollars + costMicrodollars then false else true
    | none => true

/-- Checks the cache alone. A key that is not loaded yet is assumed allowed. -/
def checkLimitSync (s : Store) (keyId : Option String) (costMicrodollars now : Int) :
    Bool × Store :=
  let (data, s) := r.getDataSync s keyId now
  (data.all (r.evaluateSync · now costMicrodollars), s)

/-- Count one request at `now`, merged into the newest entry of the same millisecond. -/
def countRequest (entries : List RateLimitEntry) (now cost : Int) : List RateLimitEntry :=
  match entries.getLast? with
  | some last =>
    if last.timestamp = now then
      entries.dropLast ++
        [{ last with count := last.count + 1, costMicrodollars := last.costMicrodollars + cost }]
    else entries ++ [⟨now, 1, cost⟩]
  | none => entries ++ [⟨now, 1, cost⟩]

def increment (s : Store) (keyId : Option String) (costMicrodollars now : Int) : Store :=
  let id := r.resolveKeyId keyId
  let (data, s) := r.getData s (some id) now
  let counted : RateLimiterData :=
    { entries := countRequest data.entries now costMicrodollars
      totalCostMicrodollars := data.totalCostMicrodollars + costMicrodollars
      lastRequestTime := some now }
  s.save r.getStorageKey id (r.prune counted now)

def getCurrentRpm (s : Store) (keyId : Option String) (now : Int) : Nat × Store :=
  let (data, s) := r.getData s keyId now
  (calculateRpm data now r.windowSizeMs, s)

def getCurrentRpd (s : Store) (keyId : Option String) (now : Int) : Nat × Store :=
  let (data, s) := r.getData s keyId now
  (calculateRpd data now r.dayWindowMs, s)

def getAccumulatedCost (s : Store) (keyId : Option String) (now : Int) : Int × Store :=
  let (data, s) := r.getData s keyId now
  (data.totalCostMicrodollars, s)

/-- Resets the counters of a key, in memory and in storage. -/
def reset (s : Store) (keyId : Option String) : Store :=
  s.save r.getStorageKey (r.resolveKeyId keyId) createDefaultRateLimiterData

def clearMemoryCache (s : Store) : Store := s.evict

/-! ## What a check and an increment see -/

theorem getStorageKey_injective : Function.Injective r.getStorageKey :=
  fun _ _ same => (String.append_right_inj r.storageKeyPrefix).mp same

@[simp] theorem getData_fst (s : Store) (keyId : Option String) (now : Int) :
    (r.getData s keyId now).1 = r.view s (r.resolveKeyId keyId) now := rfl

@[simp] theorem resolveKeyId_some (id : String) : r.resolveKeyId (some id) = id := rfl

theorem evaluate_allowed_iff (data : RateLimiterData) (now cost : Int) :
    (r.evaluate data now cost).allowed = true ↔
      calculateRpm data now r.windowSizeMs < r.rpmLimit ∧
      calculateRpd data now r.dayWindowMs < r.rpdLimit ∧
      ∀ budget, r.maxBudgetMicrodollars = some budget →
        data.totalCostMicrodollars + cost ≤ budget := by
  unfold evaluate
  by_cases rpm : r.rpmLimit ≤ calculateRpm data now r.windowSizeMs
  · simp [rpm]
  by_cases rpd : r.rpdLimit ≤ calculateRpd data now r.dayWindowMs
  · simp [rpm, rpd]
  cases budget : r.maxBudgetMicrodollars with
  | none => simp [rpm, rpd]; omega
  | some limit =>
    by_cases exceeds : limit < data.totalCostMicrodollars + cost
    · simp [rpm, rpd, exceeds]
    · simp [rpm, rpd, exceeds]; omega

theorem evaluateSync_eq (data : RateLimiterData) (now cost : Int) :
    r.evaluateSync data now cost = (r.evaluate data now cost).allowed := by
  unfold evaluateSync evaluate
  by_cases rpm : r.rpmLimit ≤ calculateRpm data now r.windowSizeMs
  · simp [rpm]
  by_cases rpd : r.rpdLimit ≤ calculateRpd data now r.dayWindowMs
  · simp [rpm, rpd]
  cases budget : r.maxBudgetMicrodollars with
  | none => simp [rpm, rpd]
  | some limit =>
    by_cases exceeds : limit < data.totalCostMicrodollars + cost <;> simp [rpm, rpd, exceeds]

/-- On a loaded key the synchronous check is the full one. -/
theorem checkLimitSync_loaded (s : Store) (keyId : Option String) (cost now : Int)
    (loaded : (s.cache (r.resolveKeyId keyId)).isSome) :
    r.checkLimitSync s keyId cost now = r.checkLimit s keyId cost now := by
  obtain ⟨cached, eq⟩ := Option.isSome_iff_exists.mp loaded
  simp only [checkLimitSync, getDataSync, checkLimit, checkLimitDetailed, getData, load,
    CachedStore.load, view, eq, Option.getD_some, Option.all_some, evaluateSync_eq]

theorem getData_agreeAt (s : Store) (keyId : Option String) (now : Int) {other : String}
    (h : other ≠ r.resolveKeyId keyId) :
    CachedStore.AgreeAt r.getStorageKey other (r.getData s keyId now).2 s :=
  CachedStore.agreeAt_setCache s _ h

theorem getDataSync_agreeAt (s : Store) (keyId : Option String) (now : Int) {other : String}
    (h : other ≠ r.resolveKeyId keyId) :
    CachedStore.AgreeAt r.getStorageKey other (r.getDataSync s keyId now).2 s := by
  simp only [getDataSync]
  cases s.cache (r.resolveKeyId keyId) with
  | none => exact .refl other s
  | some cached => exact CachedStore.agreeAt_setCache s _ h

theorem increment_agreeAt (s : Store) (keyId : Option String) (cost now : Int) {other : String}
    (h : other ≠ r.resolveKeyId keyId) :
    CachedStore.AgreeAt r.getStorageKey other (r.increment s keyId cost now) s :=
  (CachedStore.agreeAt_save r.getStorageKey_injective _ _ h).trans
    (r.getData_agreeAt s (some (r.resolveKeyId keyId)) now h)

theorem prune_later {earlier later : Int} (data : RateLimiterData) (le : earlier ≤ later) :
    r.prune (r.prune data earlier) later = r.prune data later := by
  simp only [prune, pruneExpiredEntries, List.filter_filter]
  congr 1
  apply List.filter_congr
  intro entry _
  rw [← Bool.decide_and, decide_eq_decide]
  omega

@[simp] theorem prune_prune (data : RateLimiterData) (now : Int) :
    r.prune (r.prune data now) now = r.prune data now :=
  r.prune_later data le_rfl

/-- Reading at `now` changes nothing that a reader at `now` sees. -/
@[simp] theorem view_getData (s : Store) (keyId : Option String) (id : String) (now : Int) :
    r.view (r.getData s keyId now).2 id now = r.view s id now := by
  by_cases same : id = r.resolveKeyId keyId
  · subst same
    simp only [getData, view, load, CachedStore.load_setCache_self, prune_prune]
  · simp only [view, load, (r.getData_agreeAt s keyId now same).load]

end RateLimiter

end KeyCollective
