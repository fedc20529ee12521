import KeyCollective.Breaker.Eviction
import KeyCollective.Limiter.RetryAfter
import KeyCollective.Selector.Limits

/-!
# The wait an exhausted pool advertises

Triage stops at the first gate that bars a key: its status, its breaker, the requests of the
minute, those of the day. The wait is the soonest of the instants these gates let go, and a gate
behind one of them may still be shut by then.
-/

namespace KeyCollective

/-- When the oldest request in the window slides out. -/
def RateLimiter.WindowLimit.release (r : RateLimiter) (data : RateLimiterData) (now : Int)
    (window : RateLimiter.WindowLimit) : Int :=
  match data.entries.find? fun entry => now - window.windowMs r < entry.timestamp with
  | some oldest => oldest.timestamp + window.windowMs r
  | none => now + 60000

namespace KeySelector

variable [Host] {κ : Type} [SelectableKey κ] (b : CircuitBreaker) (r : RateLimiter)
  (health : KeyHealth) (now : Int)

/-- When the first gate that bars a key lets go. A key its status rules out waits for nothing. -/
def release (key : κ) : Option Int :=
  let breaker := b.view health.breaker (keyId key) now
  let counters := r.view health.limiter (keyId key) now
  if (isStatusPermitted (SelectableKey.status key)).isSome then none
  else if !breaker.permits then some ((b.openUntil breaker).getD (now + 60000))
  else if r.rpmLimit ≤ calculateRpm counters now r.windowSizeMs then
    some (RateLimiter.WindowLimit.rpm.release r counters now)
  else if r.rpdLimit ≤ calculateRpd counters now r.dayWindowMs then
    some (RateLimiter.WindowLimit.rpd.release r counters now)
  else none

/-- The first release among the candidates, rounded up to whole seconds from now. -/
def retryAt (candidates : List κ) : Int :=
  let soonest := ((candidates.filterMap (release b r health now)).min?).getD (now + 60000)
  soonest + (now - soonest) % 1000

/-- None of a key's gates is shut at a later instant. -/
structure Free (key : κ) (later : Int) : Prop where
  permitted : isStatusPermitted (SelectableKey.status key) = none
  cooled : (b.view health.breaker (keyId key) now).state = .open →
    ∃ openedAt, (b.view health.breaker (keyId key) now).openedAt = some openedAt ∧
      openedAt + b.cooldownMs ≤ later
  rpm : calculateRpm (r.view health.limiter (keyId key) later) later r.windowSizeMs < r.rpmLimit
  rpd : calculateRpd (r.view health.limiter (keyId key) later) later r.dayWindowMs < r.rpdLimit

/-- The keys a call may end up with: its candidates, and every key when it falls back. -/
def Reachable (st : State κ) (provider : String) (options : SelectKeyOptions κ) (key : κ) : Prop :=
  key ∈ options.candidateKeys.getD (getKeys st (some provider)) ∨
    options.fallbackToAnyProvider = some true ∧ key ∈ st.keysMap.values

end KeySelector

/-! ## The wait -/

/-- Whole seconds until an instant. -/
def secondsUntil (now instant : Int) : Nat := ((instant - now + 999) / 1000).toNat

theorem secondsUntil_mono {now first second : Int} (le : first ≤ second) :
    secondsUntil now first ≤ secondsUntil now second := by
  unfold secondsUntil
  omega

theorem secondsUntil_default (now : Int) : secondsUntil now (now + 60000) = 60 := by
  unfold secondsUntil
  omega

theorem secondsUntil_pos {now instant : Int} (later : now < instant) :
    1 ≤ secondsUntil now instant := by
  unfold secondsUntil
  omega

theorem rounded_eq {now instant : Int} (later : now < instant) :
    instant + (now - instant) % 1000 = now + 1000 * secondsUntil now instant := by
  unfold secondsUntil
  omega

namespace RateLimiter.WindowLimit

variable (r : RateLimiter) (data : RateLimiterData) (now : Int) (window : WindowLimit)

theorem lt_release : now < window.release r data now := by
  unfold release
  cases live : data.entries.find? fun entry => now - window.windowMs r < entry.timestamp with
  | none => simp
  | some oldest =>
    have late : now - window.windowMs r < oldest.timestamp := by simpa using List.find?_some live
    dsimp only
    omega

theorem calculateRetryAfter_eq :
    calculateRetryAfter data now (window.windowMs r) =
      secondsUntil now (window.release r data now) := by
  have later := window.lt_release r data now
  unfold calculateRetryAfter release at *
  cases live : data.entries.find? fun entry => now - window.windowMs r < entry.timestamp with
  | none => exact (secondsUntil_default now).symm
  | some oldest =>
    simp only [live] at later
    simp only [ceilSeconds]
    rw [if_pos (by omega)]
    rfl

end RateLimiter.WindowLimit

namespace CircuitBreaker

variable (b : CircuitBreaker)

/-- A breaker found open has its cooldown ahead of it. -/
theorem lt_openUntil {s : Store} {id : String} {now instant : Int}
    (until_ : b.openUntil (b.view s id now) = some instant) : now < instant := by
  unfold openUntil view CircuitBreakerData.evaluateCooldown at until_
  by_cases elapsed : (b.load s id).cooled now b.cooldownMs = true
  · simp [elapsed] at until_
  · simp only [elapsed, Bool.false_eq_true, ↓reduceIte] at until_
    unfold CircuitBreakerData.cooled at elapsed
    split at until_
    · rename_i isOpen
      obtain ⟨openedAt, opened, rfl⟩ := Option.map_eq_some_iff.mp until_
      simp only [isOpen, opened, decide_eq_true_eq] at elapsed
      omega
    · cases until_

/-- What triage makes of the seconds a breaker names. -/
theorem retryAfter_eq (s : Store) (id : String) (now : Int) :
    (if 0 < b.retryAfter (b.view s id now) now then b.retryAfter (b.view s id now) now
      else defaultRetryAfterSeconds) =
      secondsUntil now ((b.openUntil (b.view s id now)).getD (now + 60000)) := by
  unfold retryAfter
  cases until_ : b.openUntil (b.view s id now) with
  | none => exact (secondsUntil_default now).symm
  | some instant =>
    have later := b.lt_openUntil until_
    have positive := secondsUntil_pos later
    have ahead : 0 < instant - now := by omega
    simp only [ahead, ↓reduceIte, Option.getD_some]
    exact if_pos positive

/-- A breaker permits later what it bars now once its cooldown is over. -/
theorem permits_later_iff (s : Store) (id : String) {now later : Int} (le : now ≤ later) :
    (b.view s id later).permits = true ↔
      ((b.view s id now).state = .open →
        ∃ openedAt, (b.view s id now).openedAt = some openedAt ∧
          openedAt + b.cooldownMs ≤ later) := by
  rw [b.view_later s id le]
  generalize b.view s id now = data
  unfold CircuitBreakerData.evaluateCooldown CircuitBreakerData.cooled CircuitBreakerData.permits
  cases state : data.state with
  | closed => simp [state]
  | halfOpen => simp [state]
  | «open» =>
    cases opened : data.openedAt with
    | none => simp [state]
    | some openedAt =>
      by_cases elapsed : b.cooldownMs ≤ later - openedAt
      · simp only [elapsed, decide_true, ↓reduceIte, or_true, true_iff]
        exact fun _ => ⟨openedAt, rfl, by omega⟩
      · simp only [elapsed, decide_false, Bool.false_eq_true, ↓reduceIte, state]
        simp
        omega

end CircuitBreaker

namespace KeySelector

section Selection

variable [Host] {κ : Type} [SelectableKey κ] {b : CircuitBreaker} {r : RateLimiter}
  {sel : KeySelector}

theorem lt_release {health : KeyHealth} {now instant : Int} {key : κ}
    (released : release b r health now key = some instant) : now < instant := by
  simp only [release] at released
  split at released
  · cases released
  split at released
  · obtain rfl := Option.some.inj released
    cases until_ : b.openUntil (b.view health.breaker (keyId key) now) with
    | none => simp
    | some instant => exact b.lt_openUntil until_
  split at released
  · obtain rfl := Option.some.inj released
    exact RateLimiter.WindowLimit.lt_release ..
  split at released
  · obtain rfl := Option.some.inj released
    exact RateLimiter.WindowLimit.lt_release ..
  · cases released

omit [Host] [SelectableKey κ] in
theorem limitedItem_delay {data : RateLimiterData} {cost now : Int}
    {window : RateLimiter.WindowLimit} (key : κ)
    (denied : (r.evaluate data now cost).reason = some window.reason) :
    (limitedItem key (r.evaluate data now cost)).retryAfterSeconds =
      some (secondsUntil now (window.release r data now)) := by
  have positive := secondsUntil_pos (window.lt_release r data now)
  simp only [limitedItem]
  rw [r.evaluate_retryAfter denied, window.calculateRetryAfter_eq]
  exact congrArg some (if_pos positive)

omit [Host] in
/-- Without a budget, only the two limits refuse a request. -/
theorem limiterDelay_eq (limiter : sel.rateLimiter = some r)
    (unbudgeted : r.maxBudgetMicrodollars = none) (health : KeyHealth) (cost now : Int) (key : κ) :
    (limiterFinding (sel.triageContext cost now) key health).bind
        KeyTriageItem.retryAfterSeconds =
      if r.rpmLimit ≤ calculateRpm (r.view health.limiter (keyId key) now) now r.windowSizeMs then
        some (secondsUntil now
          (RateLimiter.WindowLimit.rpm.release r (r.view health.limiter (keyId key) now) now))
      else if r.rpdLimit ≤
          calculateRpd (r.view health.limiter (keyId key) now) now r.dayWindowMs then
        some (secondsUntil now
          (RateLimiter.WindowLimit.rpd.release r (r.view health.limiter (keyId key) now) now))
      else none := by
  simp only [limiterFinding, triageContext, limiter]
  generalize r.view health.limiter (keyId key) now = data
  have allowed := r.evaluate_allowed_iff data now cost
  by_cases rpm : r.rpmLimit ≤ calculateRpm data now r.windowSizeMs
  · have refused : ¬ (r.evaluate data now cost).allowed = true := fun ok => by
      have below := (allowed.mp ok).1
      omega
    rw [if_neg refused, if_pos rpm, Option.bind_some]
    exact limitedItem_delay key ((r.evaluate_reason_rpm data now cost).mpr rpm)
  by_cases rpd : r.rpdLimit ≤ calculateRpd data now r.dayWindowMs
  · have refused : ¬ (r.evaluate data now cost).allowed = true := fun ok => by
      have below := (allowed.mp ok).2.1
      omega
    rw [if_neg refused, if_neg rpm, if_pos rpd, Option.bind_some]
    exact limitedItem_delay key ((r.evaluate_reason_rpd data now cost).mpr ⟨not_le.mp rpm, rpd⟩)
  · have permitted : (r.evaluate data now cost).allowed = true :=
      allowed.mpr ⟨not_le.mp rpm, not_le.mp rpd, by simp [unbudgeted]⟩
    rw [if_pos permitted, if_neg rpm, if_neg rpd, Option.bind_none]

/-- Triage puts the seconds until the first gate lets go into its delays. -/
theorem retryDelay_eq (breaker : sel.circuitBreaker = some b) (limiter : sel.rateLimiter = some r)
    (unbudgeted : r.maxBudgetMicrodollars = none) (health : KeyHealth) (cost now : Int) (key : κ) :
    (verdict (sel.triageContext cost now) health key).retryDelay =
      (release b r health now key).map (secondsUntil now) := by
  unfold verdict release
  cases isStatusPermitted (SelectableKey.status key) with
  | some reason => rfl
  | none =>
    have broken : breakerFinding (sel.triageContext cost now) key health =
        if (b.view health.breaker (keyId key) now).permits then none
        else some (brokenItem key (b.retryAfter (b.view health.breaker (keyId key) now) now)
          (b.openUntil (b.view health.breaker (keyId key) now))
          (b.view health.breaker (keyId key) now).state) := by
      simp only [breakerFinding, triageContext, breaker]
    rw [broken]
    by_cases permits : (b.view health.breaker (keyId key) now).permits = true
    · simp only [permits, ↓reduceIte, Option.isSome_none, Bool.false_eq_true, Bool.not_true,
        apply_ite (Option.map (secondsUntil now)), Option.map_some, Option.map_none]
      rw [← limiterDelay_eq limiter unbudgeted health cost now key]
      cases limiterFinding (sel.triageContext cost now) key health <;> rfl
    · simp only [permits, Bool.false_eq_true, ↓reduceIte, Option.isSome_none, Bool.not_false,
        Verdict.retryDelay, brokenItem, Option.map_some]
      exact congrArg some (b.retryAfter_eq health.breaker (keyId key) now)

/-- The delay of a triage leads to the first release. -/
theorem triageKeys_wait (breaker : sel.circuitBreaker = some b) (limiter : sel.rateLimiter = some r)
    (unbudgeted : r.maxBudgetMicrodollars = none) (st : State κ) (provider : Option String)
    (cost : Int) (candidateKeys : Option (List κ)) (now : Int) :
    let wait := (sel.triageKeys st provider cost candidateKeys now).1.minRetryAfterSeconds
    1 ≤ wait ∧
      now + 1000 * wait = retryAt b r st.health now (candidateKeys.getD (getKeys st provider)) := by
  intro wait
  let candidates := candidateKeys.getD (getKeys st provider)
  let instants := candidates.filterMap (release b r st.health now)
  have found : wait = ((instants.map (secondsUntil now)).min?).getD defaultRetryAfterSeconds := by
    simp only [wait, instants, candidates, triageKeys, triageKeysAsync,
      (triageLoop_eq (sel.triageContext cost now) _ st.health).1, List.filterMap_map,
      Function.comp_def, retryDelay_eq breaker limiter unbudgeted, List.map_filterMap]
  suffices soonest : ∃ instant, now < instant ∧ (instants.min?).getD (now + 60000) = instant ∧
      wait = secondsUntil now instant by
    obtain ⟨instant, later, first, eq⟩ := soonest
    refine ⟨eq ▸ secondsUntil_pos later, ?_⟩
    rw [eq, retryAt, first, rounded_eq later]
  cases first : instants.min? with
  | none =>
    refine ⟨now + 60000, by omega, rfl, ?_⟩
    rw [found, List.min?_eq_none_iff.mp first]
    exact (secondsUntil_default now).symm
  | some instant =>
    obtain ⟨mem, least⟩ := List.min?_eq_some_iff.mp first
    obtain ⟨key, -, released⟩ := List.mem_filterMap.mp mem
    refine ⟨instant, lt_release released, rfl, ?_⟩
    have shortest : (instants.map (secondsUntil now)).min? = some (secondsUntil now instant) := by
      refine List.min?_eq_some_iff.mpr ⟨List.mem_map_of_mem mem, ?_⟩
      rintro _ delay
      obtain ⟨other, present, rfl⟩ := List.mem_map.mp delay
      exact secondsUntil_mono (least other present)
    rw [found, shortest, Option.getD_some]

/-! ## The second call -/

omit [Host] in
/-- What a reader sees alike at an instant it sees alike from then on. -/
theorem sameViews_later {cost now later : Int} {health other : KeyHealth}
    (same : SameViews (sel.triageContext cost now) health other) (le : now ≤ later) :
    SameViews (sel.triageContext cost later) health other where
  breaker b breaker id := by
    have views := same.breaker b breaker id
    simp only [triageContext] at views ⊢
    rw [b.view_later other.breaker id le, b.view_later health.breaker id le, views]
  limiter r limiter id := by
    have views := same.limiter r limiter id
    simp only [triageContext] at views ⊢
    have aged (health : KeyHealth) :
        r.view health.limiter id later = r.prune (r.view health.limiter id now) later :=
      (r.prune_later _ le).symm
    rw [aged, aged, views]

/-- An exhausted call reports the delay of its first triage and leaves what that one and the
fallback's made of the breakers and counters. -/
theorem selectKey_error {st : State κ} {provider : String} {options : SelectKeyOptions κ}
    {now : Int} {draw : Nat} {error : KeyExhaustedError}
    (thrown : (sel.selectKey st provider options now draw).1 = .error error) :
    error.retryAfterSeconds = (sel.triageKeys st (some provider)
        (options.costMicrodollars.getD 0) options.candidateKeys now).1.minRetryAfterSeconds ∧
      (sel.selectKey st provider options now draw).2 =
        (sel.triageForSelection st provider options now).2 := by
  have first : (sel.triageForSelection st provider options now).1.healthyKeys = [] →
      (sel.triageForSelection st provider options now).1 = (sel.triageKeys st (some provider)
        (options.costMicrodollars.getD 0) options.candidateKeys now).1 := by
    simp only [triageForSelection]
    split
    · split
      · exact fun _ => rfl
      · rename_i some
        intro none
        rw [none] at some
        exact absurd rfl some
    · exact fun _ => rfl
  simp only [selectKey] at thrown ⊢
  split at thrown
  · rename_i none
    rw [first none] at thrown
    split at thrown
    · rename_i throws
      obtain rfl := Except.error.inj thrown
      simp only [throws, ↓reduceIte, and_self]
    · cases thrown
  · cases thrown

theorem selectKey_succeeds_iff (st : State κ) (provider : String) (options : SelectKeyOptions κ)
    (now : Int) (draw : Nat) :
    (∃ key, (sel.selectKey st provider options now draw).1 = .ok (some key)) ↔
      sel.offered st provider options now ≠ [] := by
  rcases sel.selectKey_cases st provider options now draw with ⟨empty, none⟩ | ⟨some, p, eq⟩
  · exact iff_of_false (fun ⟨key, selected⟩ => none key selected) (absurd empty)
  · exact iff_of_true ⟨_, eq⟩ some

theorem offered_ne_nil_iff (st : State κ) (provider : String) (options : SelectKeyOptions κ)
    (now : Int) :
    sel.offered st provider options now ≠ [] ↔
      ∃ key, Reachable st provider options key ∧ sel.isHealthy st options now key = true := by
  have filtered (keys : List κ) : keys.filter (sel.isHealthy st options now) ≠ [] ↔
      ∃ key ∈ keys, sel.isHealthy st options now key = true := by
    simp only [ne_eq, List.filter_eq_nil_iff, not_forall, Decidable.not_not, exists_prop]
  simp only [offered, considered, Reachable]
  split
  · rename_i falls
    have none := List.filter_eq_nil_iff.mp (List.isEmpty_iff.mp falls.1)
    rw [filtered]
    constructor
    · rintro ⟨key, mem, healthy⟩
      exact ⟨key, Or.inr ⟨falls.2, mem⟩, healthy⟩
    · rintro ⟨key, mem | ⟨-, mem⟩, healthy⟩
      · exact absurd healthy (none key mem)
      · exact ⟨key, mem, healthy⟩
  · rename_i stays
    constructor
    · intro some
      obtain ⟨key, mem, healthy⟩ := (filtered _).mp some
      exact ⟨key, Or.inl mem, healthy⟩
    · rintro ⟨key, mem | ⟨falls, -⟩, healthy⟩
      · exact (filtered _).mpr ⟨key, mem, healthy⟩
      · exact fun none => stays ⟨List.isEmpty_iff.mpr none, falls⟩

theorem isHealthy_later_iff (breaker : sel.circuitBreaker = some b)
    (limiter : sel.rateLimiter = some r) (unbudgeted : r.maxBudgetMicrodollars = none)
    (st : State κ) (options : SelectKeyOptions κ) {now later : Int} (le : now ≤ later) (key : κ) :
    sel.isHealthy st options later key = true ↔ Free b r st.health now key later := by
  have cooled := b.permits_later_iff st.health.breaker (keyId key) le
  have broken : breakerFinding (sel.triageContext (options.costMicrodollars.getD 0) later) key
      st.health = none ↔ (b.view st.health.breaker (keyId key) later).permits = true := by
    simp [breakerFinding, triageContext, breaker]
  have room : limiterFinding (sel.triageContext (options.costMicrodollars.getD 0) later) key
      st.health = none ↔
      calculateRpm (r.view st.health.limiter (keyId key) later) later r.windowSizeMs < r.rpmLimit ∧
        calculateRpd (r.view st.health.limiter (keyId key) later) later r.dayWindowMs <
          r.rpdLimit := by
    rw [limiterFinding_eq_none _ (r := r) limiter, RateLimiter.evaluate_allowed_iff]
    simp only [unbudgeted, reduceCtorEq, false_implies, implies_true, and_true]
    rfl
  rw [isHealthy, verdict_isHealthy_iff, broken, cooled, room]
  constructor
  · rintro ⟨permitted, cooled, rpm, rpd⟩
    exact ⟨permitted, cooled, rpm, rpd⟩
  · rintro ⟨permitted, cooled, rpm, rpd⟩
    exact ⟨permitted, cooled, rpm, rpd⟩

/-- A call after the wait succeeds exactly when one of the keys it may use is free when the
first of the gates lets go, rounded up to a second. -/
theorem exhausted_retry_succeeds_iff (breaker : sel.circuitBreaker = some b)
    (limiter : sel.rateLimiter = some r) (unbudgeted : r.maxBudgetMicrodollars = none)
    (st : State κ) (provider : String) (options : SelectKeyOptions κ) (now : Int) (draw : Nat)
    (error : KeyExhaustedError)
    (thrown : (sel.selectKey st provider options now draw).1 = .error error) :
    (1 ≤ error.retryAfterSeconds ∧ ∀ draw', ∃ key,
      (sel.selectKey (sel.selectKey st provider options now draw).2 provider options
        (now + 1000 * error.retryAfterSeconds) draw').1 = .ok (some key)) ↔
      ∃ key, Reachable st provider options key ∧ Free b r st.health now key
        (retryAt b r st.health now (options.candidateKeys.getD (getKeys st (some provider)))) := by
  obtain ⟨reported, left⟩ := selectKey_error thrown
  obtain ⟨positive, instant⟩ := triageKeys_wait breaker limiter unbudgeted st (some provider)
    (options.costMicrodollars.getD 0) options.candidateKeys now
  rw [← reported] at positive instant
  obtain ⟨-, health, eq, same⟩ := sel.triageForSelection_spec st provider options now
  rw [left, eq, instant]
  have le : now ≤ retryAt b r st.health now
      (options.candidateKeys.getD (getKeys st (some provider))) := by omega
  generalize retryAt b r st.health now
    (options.candidateKeys.getD (getKeys st (some provider))) = later at le ⊢
  have seen := sameViews_later same le
  have healthy (key : κ) : sel.isHealthy { st with health } options later key =
      sel.isHealthy st options later key := by
    simp only [isHealthy, verdict_congr _ seen]
  have succeeds (draw' : Nat) : (∃ key, (sel.selectKey { st with health } provider options later
      draw').1 = .ok (some key)) ↔
      ∃ key, Reachable st provider options key ∧ Free b r st.health now key later := by
    rw [selectKey_succeeds_iff, offered_ne_nil_iff]
    simp only [healthy, isHealthy_later_iff breaker limiter unbudgeted st options le]
    rfl
  constructor
  · rintro ⟨-, retried⟩
    exact (succeeds 0).mp (retried 0)
  · intro free
    exact ⟨positive, fun draw' => (succeeds draw').mpr free⟩

end Selection

section Examples

attribute [local instance] asciiHost

/-- A breaker that cools down in half the limiter's window. -/
def quickBreaker : CircuitBreaker := .create { cooldownSeconds := some 30 }

def quickSelector : KeySelector :=
  { poolSelector with
    circuitBreaker := some quickBreaker
    rateLimiter := some RateLimiter.singleRequest }

/-- One key, whose breaker tripped at the start. -/
def tripped : State EncryptedKey :=
  { setKeys .fresh [slowKey] with
    health := ⟨quickBreaker.trip .empty (some "k1") 0, .empty⟩ }

/-- The request that tripped it was counted. -/
def trippedUsed : State EncryptedKey :=
  { tripped with
    health :=
      { tripped.health with
        limiter := RateLimiter.singleRequest.increment .empty (some "k1") 0 0 } }

def exhaustedAfter (seconds : Nat) : KeyExhaustedError where
  message := exhaustedMessage "groq" 1
  provider := "groq"
  tenantId := some "acme"
  totalKeys := 1
  retryAfterSeconds := seconds

theorem exhausted_retry_succeeds_tripped :
    1 ≤ (exhaustedAfter 29).retryAfterSeconds ∧ ∀ draw', ∃ key,
      (quickSelector.selectKey (quickSelector.selectKey tripped "groq" {} 1000 0).2 "groq" {}
        (1000 + 1000 * 29) draw').1 = .ok (some key) :=
  (exhausted_retry_succeeds_iff (b := quickBreaker) (r := RateLimiter.singleRequest) rfl rfl rfl
    tripped "groq" {} 1000 0 (exhaustedAfter 29) (by decide)).mpr
    ⟨slowKey, Or.inl (by decide), by decide,
      fun _ => ⟨0, by decide, by decide⟩, by decide, by decide⟩

/-- The breaker has cooled down after the wait, and the limiter refuses the key. -/
theorem exhausted_retry_refused :
    (quickSelector.selectKey trippedUsed "groq" {} 1000 0).1 = .error (exhaustedAfter 29) ∧
      (quickSelector.selectKey (quickSelector.selectKey trippedUsed "groq" {} 1000 0).2 "groq" {}
        (1000 + 1000 * 29) 0).1 = .error (exhaustedAfter 30) ∧
      isStatusPermitted slowKey.status = none ∧ slowKey ∈ getKeys trippedUsed (some "groq") := by
  decide

end Examples

end KeySelector

end KeyCollective
