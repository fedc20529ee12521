import KeyCollective.Pool.EncryptedKey
import KeyCollective.Selector.KeySelector

/-!
# Per-key limits

A key carries limits of its own. The capacity summary counts with them; triage
asks the one limiter of the pool, which has limits of its own again.
-/

namespace KeyCollective.KeySelector

variable {κ : Type} [SelectableKey κ] (r : RateLimiter)

/-- The requests and the cost a reader at `now` finds recorded for a key. -/
structure Usage where
  rpm : Nat
  rpd : Nat
  totalCostMicrodollars : Int

def usage (st : State κ) (key : κ) (now : Int) : Usage :=
  let data := r.view st.health.limiter (keyId key) now
  { rpm := calculateRpm data now r.windowSizeMs
    rpd := calculateRpd data now r.dayWindowMs
    totalCostMicrodollars := data.totalCostMicrodollars }

/-- The pool's limiter has room: requests per minute, per day, and budget. -/
def Usage.belowShared (u : Usage) (costMicrodollars : Int) : Prop :=
  u.rpm < r.rpmLimit ∧ u.rpd < r.rpdLimit ∧
    ∀ budget, r.maxBudgetMicrodollars = some budget →
      u.totalCostMicrodollars + costMicrodollars ≤ budget

/-- The key has reached none of the limits it carries. -/
def Usage.belowOwn (u : Usage) (key : κ) : Prop :=
  (∀ limit, SelectableKey.rpmLimit key = some limit → (u.rpm : Int) < limit) ∧
  (∀ limit, SelectableKey.rpdLimit key = some limit → (u.rpd : Int) < limit)

variable {r} {sel : KeySelector}

theorem limiterFinding_none_iff (limiter : sel.rateLimiter = some r) (st : State κ)
    (cost now : Int) (key : κ) :
    limiterFinding (sel.triageContext cost now) key st.health = none ↔
      (usage r st key now).belowShared r cost := by
  rw [limiterFinding_eq_none _ (r := r) limiter]
  exact r.evaluate_allowed_iff _ _ _

section Selection

variable [Host]

theorem isHealthy_iff (limiter : sel.rateLimiter = some r) (st : State κ)
    (options : SelectKeyOptions κ) (now : Int) (key : κ) :
    sel.isHealthy st options now key = true ↔
      isStatusPermitted (SelectableKey.status key) = none ∧
      breakerFinding (sel.triageContext (options.costMicrodollars.getD 0) now) key st.health = none ∧
      (usage r st key now).belowShared r (options.costMicrodollars.getD 0) := by
  rw [isHealthy, verdict_isHealthy_iff, limiterFinding_none_iff limiter]

/-- No strategy and no draw returns a key that has reached its own limits, exactly
when every key the call lets through is below them whenever it is below the pool's. -/
theorem selection_honours_own_limits (limiter : sel.rateLimiter = some r) (st : State κ)
    (provider : String) (options : SelectKeyOptions κ) (now : Int) :
    (∀ strategy draw key,
      (sel.selectKey st provider { options with strategy := strategy } now draw).1 =
        .ok (some key) → (usage r st key now).belowOwn key) ↔
    ∀ key ∈ sel.considered st provider options now,
      isStatusPermitted (SelectableKey.status key) = none →
      breakerFinding (sel.triageContext (options.costMicrodollars.getD 0) now) key st.health = none →
      (usage r st key now).belowShared r (options.costMicrodollars.getD 0) →
      (usage r st key now).belowOwn key := by
  constructor
  · intro honoured key mem status breaker shared
    have offered : key ∈ sel.offered st provider options now :=
      List.mem_filter.mpr ⟨mem, (isHealthy_iff limiter ..).mpr ⟨status, breaker, shared⟩⟩
    obtain ⟨draw, selected⟩ :=
      sel.selectKey_draws (o := { options with strategy := some .random }) rfl offered
    exact honoured (some .random) draw key selected
  · intro covered strategy draw key selected
    have offered := sel.selectKey_offered selected
    obtain ⟨mem, healthy⟩ := List.mem_filter.mp offered
    obtain ⟨status, breaker, shared⟩ := (isHealthy_iff limiter ..).mp healthy
    exact covered key mem status breaker shared

/-- Triage lists the key as rate-limited. -/
def listedRateLimited (sel : KeySelector) (st : State κ) (provider : Option String) (now : Int)
    (key : κ) : Prop :=
  ∃ item ∈ (sel.triageKeys st provider 0 none now).1.rateLimitedKeys, item.key = key

omit [Host] in
theorem remaining_eq_zero (total current : Int) : max 0 (total - current) = 0 ↔ total ≤ current := by
  omega

theorem capacity_single (limiter : sel.rateLimiter = some r) {st : State κ}
    {provider : Option String} {now : Int} {key : κ} (single : getKeys st provider = [key]) :
    (sel.getCapacitySummary st provider now).1.remainingRpm = 0 ↔
      (SelectableKey.rpmLimit key).getD (defaultRpmLimit : Int) ≤ (usage r st key now).rpm := by
  obtain ⟨health, eq, same⟩ := sel.triageKeys_state st provider 0 none now
  have view := same.limiter r limiter (keyId key)
  simp only [triageContext] at view
  simp only [getCapacitySummary, single, eq, capacityLoop, limiter, RateLimiter.getCurrentRpm,
    RateLimiter.getData_fst, RateLimiter.resolveKeyId_some, view, zero_add]
  exact remaining_eq_zero _ _

theorem listed_single (limiter : sel.rateLimiter = some r) {st : State κ}
    {provider : Option String} {now : Int} {key : κ} (single : getKeys st provider = [key])
    (enabled : isStatusPermitted (SelectableKey.status key) = none)
    (breaker : breakerFinding (sel.triageContext 0 now) key st.health = none) :
    listedRateLimited sel st provider now key ↔ ¬ (usage r st key now).belowShared r 0 := by
  rw [← limiterFinding_none_iff limiter]
  simp only [listedRateLimited, triageKeys, mem_rateLimitedKeys, Option.getD_none, single,
    List.mem_singleton, exists_eq_left, verdict, enabled, breaker]
  cases finding : limiterFinding (sel.triageContext 0 now) key st.health with
  | none => simp [Verdict.rateLimitedItem]
  | some item =>
    have of : item.key = key := by
      simp only [limiterFinding, triageContext, limiter] at finding
      split at finding
      · cases finding
      · rw [← Option.some.inj finding, limitedItem]
    simp [Verdict.rateLimitedItem, of]

/-- The limits keys carry are honoured by selection, and the capacity summary agrees
with triage on a single key, exactly where the pool's limiter is reached no later
than the key's own limits and, for the summary, reached together with them. -/
theorem own_limits_honoured_iff (limiter : sel.rateLimiter = some r) (st : State κ) :
    (∀ provider (options : SelectKeyOptions κ) now,
      (∀ strategy draw key,
        (sel.selectKey st provider { options with strategy := strategy } now draw).1 =
          .ok (some key) → (usage r st key now).belowOwn key) ↔
      ∀ key ∈ sel.considered st provider options now,
        isStatusPermitted (SelectableKey.status key) = none →
        breakerFinding (sel.triageContext (options.costMicrodollars.getD 0) now) key st.health =
          none →
        (usage r st key now).belowShared r (options.costMicrodollars.getD 0) →
        (usage r st key now).belowOwn key) ∧
    ∀ provider now key, getKeys st provider = [key] →
      isStatusPermitted (SelectableKey.status key) = none →
      breakerFinding (sel.triageContext 0 now) key st.health = none →
      (usage r st key now).rpd < r.rpdLimit →
      (∀ budget, r.maxBudgetMicrodollars = some budget →
        (usage r st key now).totalCostMicrodollars ≤ budget) →
      (((sel.getCapacitySummary st provider now).1.remainingRpm = 0 ↔
          listedRateLimited sel st provider now key) ↔
        ((SelectableKey.rpmLimit key).getD (defaultRpmLimit : Int) ≤ (usage r st key now).rpm ↔
          r.rpmLimit ≤ (usage r st key now).rpm)) := by
  refine ⟨selection_honours_own_limits limiter st,
    fun provider now key single enabled breaker daily budget => ?_⟩
  rw [capacity_single limiter single, listed_single limiter single enabled breaker]
  have shared : ¬ (usage r st key now).belowShared r 0 ↔ r.rpmLimit ≤ (usage r st key now).rpm := by
    simp only [Usage.belowShared, add_zero]
    constructor
    · intro exceeds
      by_contra below
      exact exceeds ⟨by omega, daily, budget⟩
    · intro exceeds below
      omega
  rw [shared]

end Selection

section Examples

attribute [local instance] asciiHost

/-- The selector a pool builds. -/
def poolSelector : KeySelector where
  tenantId := some "acme"
  defaultStrategy := .priority
  circuitBreaker := some (.create {})
  rateLimiter := some (.create {})
  storage := true
  storageKeyPrefix := "ks:"

/-- A key that allows itself one request a minute. -/
def slowKey : EncryptedKey :=
  { id := "k1", tenantId := some "acme", provider := "groq", ciphertext := "c", nonce := "n",
    rpmLimit := some 1 }

/-- Its pool after one recorded request. -/
def usedOnce : State EncryptedKey :=
  { setKeys .fresh [slowKey] with
    health := ⟨.empty, (RateLimiter.create {}).increment .empty (some "k1") 5 1000⟩ }

theorem own_limits_honoured_slow_key :
    (¬ ∀ strategy draw key,
      (poolSelector.selectKey usedOnce "groq" { strategy := strategy } 2000 draw).1 =
        .ok (some key) → (usage (.create {}) usedOnce key 2000).belowOwn key) ∧
    (((poolSelector.getCapacitySummary usedOnce none 2000).1.remainingRpm = 0 ↔
        listedRateLimited poolSelector usedOnce none 2000 slowKey) ↔ ((1 : Int) ≤ 1 ↔ 60 ≤ 1)) := by
  have limiter : poolSelector.rateLimiter = some (.create {}) := rfl
  have unlimited : ∀ cost budget : Int, (RateLimiter.create {}).maxBudgetMicrodollars = some budget →
      cost ≤ budget := fun _ _ h => by cases h
  obtain ⟨selection, capacity⟩ := own_limits_honoured_iff limiter usedOnce
  refine ⟨fun honoured => ?_,
    capacity none 2000 slowKey rfl rfl (by decide) (by decide) (unlimited _)⟩
  have below := (selection "groq" {} 2000).mp honoured slowKey (by decide) rfl rfl
    ⟨by decide, by decide, unlimited _⟩
  exact absurd (below.1 1 rfl) (by decide)

/-- A key is dispatched at its own limit, and reported full while triage finds it healthy. -/
theorem slow_key_selected :
    (poolSelector.selectKey usedOnce "groq" {} 2000 0).1 = .ok (some slowKey) ∧
    ¬ (usage (.create {}) usedOnce slowKey 2000).belowOwn slowKey ∧
    (poolSelector.getCapacitySummary usedOnce none 2000).1.remainingRpm = 0 ∧
    (poolSelector.triageKeys usedOnce none 0 none 2000).1.rateLimitedKeys = [] := by
  refine ⟨by decide, fun below => ?_, by decide, by decide⟩
  exact absurd (below.1 1 rfl) (by decide)

end Examples

end KeyCollective.KeySelector
