import KeyCollective.Limiter.Eviction
import KeyCollective.Limiter.Safety

/-!
# The wait a limiter advertises

A denial names the seconds until the oldest entry of its window slides out. Increments are
counted whether a check allowed them or not, so a window can hold more than its limit, and then
one entry leaving is not enough.
-/

namespace KeyCollective.RateLimiter

open SlidingWindow

/-- The two limits on requests. -/
inductive WindowLimit where
  | rpm
  | rpd
deriving DecidableEq, Repr

variable (r : RateLimiter)

namespace WindowLimit

def reason : WindowLimit → LimitReason
  | rpm => .rpmLimitExceeded
  | rpd => .rpdLimitExceeded

def limit : WindowLimit → Nat
  | rpm => r.rpmLimit
  | rpd => r.rpdLimit

def windowMs : WindowLimit → Int
  | rpm => r.windowSizeMs
  | rpd => r.dayWindowMs

variable (data : RateLimiterData) (now : Int)

/-- Entries stamped no later than this have left the window once the wait is over: the oldest
one in the window, and those that follow it by less than what rounds its wait up to a second. -/
def departed (window : WindowLimit) : Int :=
  match data.entries.find? fun entry => now - window.windowMs r < entry.timestamp with
  | some oldest => oldest.timestamp + (now - window.windowMs r - oldest.timestamp) % 1000
  | none => now + 60000 - window.windowMs r

/-- The requests that are still counted once the wait is over. The counters have been pruned to
the day window by then, which matters when that is the shorter. -/
def staying (window : WindowLimit) : Nat :=
  RateLimitEntry.gauge.total
    (fun entry => window.departed r data now < entry.timestamp ∧
      window.departed r data now + window.windowMs r - r.dayWindowMs < entry.timestamp)
    data.entries

/-- The requests the window counts, on counters in order. -/
def usage (window : WindowLimit) : Nat :=
  RateLimitEntry.gauge.sumAfter (now - window.windowMs r) data.entries

/-- The limit is reached, and the one that is checked before it is not. -/
def Reached : WindowLimit → Prop
  | rpm => r.rpmLimit ≤ rpm.usage r data now
  | rpd => rpm.usage r data now < r.rpmLimit ∧ r.rpdLimit ≤ rpd.usage r data now

end WindowLimit

theorem ceilSeconds_pos (remainingMs : Int) : 1 ≤ ceilSeconds remainingMs := by
  unfold ceilSeconds
  split <;> omega

theorem calculateRetryAfter_pos (data : RateLimiterData) (now windowMs : Int) :
    1 ≤ calculateRetryAfter data now windowMs := by
  unfold calculateRetryAfter
  split
  · exact ceilSeconds_pos _
  · decide

/-- What has departed is what the window no longer covers after the wait. -/
theorem WindowLimit.departed_eq (data : RateLimiterData) (now : Int) (window : WindowLimit) :
    window.departed r data now =
      now + 1000 * calculateRetryAfter data now (window.windowMs r) - window.windowMs r := by
  unfold departed calculateRetryAfter
  cases live : data.entries.find? fun entry => now - window.windowMs r < entry.timestamp with
  | none => simp [defaultRetryAfterSeconds]
  | some oldest =>
    have late : now - window.windowMs r < oldest.timestamp := by simpa using List.find?_some live
    simp only [ceilSeconds]
    rw [if_pos (by omega)]
    omega

/-! ## What a check finds -/

/-- Everything a check can answer, with the wait that goes with each reason. -/
theorem evaluate_cases (data : RateLimiterData) (now cost : Int) :
    (r.rpmLimit ≤ calculateRpm data now r.windowSizeMs ∧
      (r.evaluate data now cost).reason = some .rpmLimitExceeded ∧
      (r.evaluate data now cost).retryAfterSeconds =
        calculateRetryAfter data now r.windowSizeMs) ∨
    (calculateRpm data now r.windowSizeMs < r.rpmLimit ∧
      r.rpdLimit ≤ calculateRpd data now r.dayWindowMs ∧
      (r.evaluate data now cost).reason = some .rpdLimitExceeded ∧
      (r.evaluate data now cost).retryAfterSeconds =
        calculateRetryAfter data now r.dayWindowMs) ∨
    (calculateRpm data now r.windowSizeMs < r.rpmLimit ∧
      calculateRpd data now r.dayWindowMs < r.rpdLimit ∧
      ((r.evaluate data now cost).reason = some .budgetExceeded ∧
          (r.evaluate data now cost).retryAfterSeconds = defaultRetryAfterSeconds ∨
        (r.evaluate data now cost).reason = none ∧ (r.evaluate data now cost).allowed = true)) := by
  unfold evaluate
  by_cases rpm : r.rpmLimit ≤ calculateRpm data now r.windowSizeMs
  · simp only [rpm, ↓reduceIte]
    exact Or.inl ⟨trivial, trivial, rfl⟩
  by_cases rpd : r.rpdLimit ≤ calculateRpd data now r.dayWindowMs
  · simp only [rpm, rpd, ↓reduceIte]
    exact Or.inr (Or.inl ⟨not_le.mp rpm, trivial, trivial, rfl⟩)
  refine Or.inr (Or.inr ⟨not_le.mp rpm, not_le.mp rpd, ?_⟩)
  simp only [rpm, rpd, ↓reduceIte]
  cases r.maxBudgetMicrodollars with
  | none => exact Or.inr ⟨rfl, rfl⟩
  | some budget =>
    by_cases exceeds : budget < data.totalCostMicrodollars + cost
    · simp only [exceeds, ↓reduceIte]
      exact Or.inl ⟨trivial, trivial⟩
    · simp only [exceeds, ↓reduceIte]
      exact Or.inr ⟨trivial, trivial⟩

theorem evaluate_reason_rpm (data : RateLimiterData) (now cost : Int) :
    (r.evaluate data now cost).reason = some .rpmLimitExceeded ↔
      r.rpmLimit ≤ calculateRpm data now r.windowSizeMs := by
  rcases r.evaluate_cases data now cost with
    ⟨rpm, reason, -⟩ | ⟨rpm, -, reason, -⟩ | ⟨rpm, -, ⟨reason, -⟩ | ⟨reason, -⟩⟩
  · simp [reason, rpm]
  all_goals simp [reason, not_le.mpr rpm]

theorem evaluate_reason_rpd (data : RateLimiterData) (now cost : Int) :
    (r.evaluate data now cost).reason = some .rpdLimitExceeded ↔
      calculateRpm data now r.windowSizeMs < r.rpmLimit ∧
        r.rpdLimit ≤ calculateRpd data now r.dayWindowMs := by
  rcases r.evaluate_cases data now cost with
    ⟨rpm, reason, -⟩ | ⟨rpm, rpd, reason, -⟩ | ⟨-, rpd, ⟨reason, -⟩ | ⟨reason, -⟩⟩
  · simp [reason, not_lt.mpr rpm]
  · simp [reason, rpm, rpd]
  all_goals simp [reason, not_le.mpr rpd]

/-- A denial for a limit waits for the oldest entry of its window. -/
theorem evaluate_retryAfter {data : RateLimiterData} {now cost : Int} {window : WindowLimit}
    (denied : (r.evaluate data now cost).reason = some window.reason) :
    (r.evaluate data now cost).retryAfterSeconds =
      calculateRetryAfter data now (window.windowMs r) := by
  rcases r.evaluate_cases data now cost with
    ⟨-, reason, wait⟩ | ⟨-, -, reason, wait⟩ | ⟨-, -, ⟨reason, -⟩ | ⟨reason, -⟩⟩
  · rw [reason] at denied
    cases window with
    | rpm => exact wait
    | rpd => cases denied
  · rw [reason] at denied
    cases window with
    | rpm => cases denied
    | rpd => exact wait
  all_goals
    rw [reason] at denied
    cases window <;> cases denied

/-- No denial advertises less than a second. -/
theorem evaluate_waits {data : RateLimiterData} {now cost : Int}
    (denied : (r.evaluate data now cost).allowed = false) :
    1 ≤ (r.evaluate data now cost).retryAfterSeconds := by
  rcases r.evaluate_cases data now cost with
    ⟨-, -, wait⟩ | ⟨-, -, -, wait⟩ | ⟨-, -, ⟨-, wait⟩ | ⟨-, allowed⟩⟩
  · rw [wait]
    exact calculateRetryAfter_pos _ _ _
  · rw [wait]
    exact calculateRetryAfter_pos _ _ _
  · rw [wait]
    decide
  · rw [denied] at allowed
    cases allowed

/-! ## The same counters later -/

theorem rpm_usage {data : RateLimiterData} {now : Int}
    (sorted : RateLimitEntry.gauge.Chronological data.entries) :
    calculateRpm data now r.windowSizeMs = WindowLimit.rpm.usage r data now :=
  calculateRpm_eq sorted

theorem rpd_usage (data : RateLimiterData) (now : Int) :
    calculateRpd data now r.dayWindowMs = WindowLimit.rpd.usage r data now := rfl

/-- What is counted at an instant among counters pruned for it. -/
theorem WindowLimit.usage_prune (data : RateLimiterData) (now : Int) (window : WindowLimit) :
    window.usage r (r.prune data now) now =
      RateLimitEntry.gauge.total
        (fun entry => now - window.windowMs r < entry.timestamp ∧
          now - r.dayWindowMs < entry.timestamp) data.entries := by
  simp only [usage, Gauge.sumAfter, Gauge.total, prune, pruneExpiredEntries, List.filter_filter]
  congr 2
  refine List.filter_congr fun entry _ => ?_
  exact (Bool.decide_and _ _).symm

/-- Time takes requests out of a window and brings none in. -/
theorem WindowLimit.usage_later (data : RateLimiterData) {now later : Int} (le : now ≤ later)
    (window : WindowLimit) :
    window.usage r (r.prune data later) later ≤ window.usage r data now := by
  rw [usage_prune, usage]
  apply Gauge.total_le
  intro entry _ counted
  have late := (of_decide_eq_true counted).1
  exact decide_eq_true (lt_of_le_of_lt (sub_le_sub_right le _) late)

theorem WindowLimit.usage_after_wait (data : RateLimiterData) (now : Int) (window : WindowLimit) :
    window.usage r
        (r.prune data (now + 1000 * calculateRetryAfter data now (window.windowMs r)))
        (now + 1000 * calculateRetryAfter data now (window.windowMs r)) =
      window.staying r data now := by
  rw [usage_prune, staying]
  apply Gauge.total_congr
  intro entry _
  have departed := window.departed_eq r data now
  apply decide_eq_decide.mpr
  constructor
  · rintro ⟨late, kept⟩
    omega
  · rintro ⟨late, kept⟩
    omega

theorem evaluate_reason_iff {data : RateLimiterData} {now cost : Int} (window : WindowLimit)
    (sorted : RateLimitEntry.gauge.Chronological data.entries) :
    (r.evaluate data now cost).reason = some window.reason ↔ window.Reached r data now := by
  cases window with
  | rpm =>
    rw [WindowLimit.reason, evaluate_reason_rpm, r.rpm_usage sorted]
    rfl
  | rpd =>
    rw [WindowLimit.reason, evaluate_reason_rpd, r.rpm_usage sorted, rpd_usage]
    rfl

/-- A limit that was reached is reached later if its window is still full: the limit that is
checked before it, if any, is not. -/
theorem reached_later_iff {data : RateLimiterData} {now later : Int} {window : WindowLimit}
    (le : now ≤ later) (reached : window.Reached r data now) :
    window.Reached r (r.prune data later) later ↔
      window.limit r ≤ window.usage r (r.prune data later) later := by
  cases window with
  | rpm => rfl
  | rpd => exact and_iff_right ((WindowLimit.rpm.usage_later r data le).trans_lt reached.1)

/-! ## Runs -/

/-- The counters of every key are in order, cached or stored. -/
def InOrder (clock : Int) (s : Store) : Prop :=
  CachedStore.Everywhere r.getStorageKey createDefaultRateLimiterData
    (fun _ data => ∃ history, r.Faithful clock data history) s

variable {r}

theorem InOrder.view {clock : Int} {s : Store} (inOrder : r.InOrder clock s) (id : String)
    {now : Int} (le : clock ≤ now) :
    RateLimitEntry.gauge.Chronological (r.view s id now).entries := by
  obtain ⟨history, faithful⟩ := (inOrder id).2
  exact (faithful.later le).prune.chronological

theorem InOrder.read {now : Int} {s : Store} (inOrder : r.InOrder now s) (keyId : Option String) :
    r.InOrder now (r.getData s keyId now).2 := by
  refine inOrder.setCache ?_
  obtain ⟨history, faithful⟩ := (inOrder (r.resolveKeyId keyId)).2
  exact ⟨history, faithful.prune⟩

theorem InOrder.serve {now : Int} {s : Store} (inOrder : r.InOrder now s) (call : Call) :
    r.InOrder now (r.serve s now call) := by
  cases call with
  | check keyId => exact inOrder.read keyId
  | increment keyId costMicrodollars =>
    have read := inOrder.read (some (r.resolveKeyId keyId))
    refine read.save r.getStorageKey_injective ?_ fun _ _ _ faithful => faithful
    obtain ⟨history, faithful⟩ := (inOrder (r.resolveKeyId keyId)).2
    exact ⟨_, (faithful.prune.count (r.resolveKeyId keyId)).prune⟩
  | reset keyId =>
    refine inOrder.save r.getStorageKey_injective ?_ fun _ _ _ faithful => faithful
    exact ⟨[], .default now⟩
  | clearMemoryCache => exact CachedStore.Everywhere.evict inOrder

theorem InOrder.step {run : Timed} {call : Call × Int} (inOrder : r.InOrder run.2 run.1)
    (le : OrderedCall run call) : r.InOrder (r.callStep run call).2 (r.callStep run call).1 := by
  have later : r.InOrder call.2 run.1 :=
    inOrder.imp fun _ _ ⟨history, faithful⟩ => ⟨history, faithful.later le⟩
  exact later.serve call.1

variable (r)

/-- The store and the instant a run of calls ends with. -/
def afterCalls (clock : Int) (calls : List (Call × Int)) : Timed :=
  calls.foldl r.callStep (.empty, clock)

theorem afterCalls_inOrder {clock : Int} {calls : List (Call × Int)}
    (ordered : Transition.Guarded r.callStep OrderedCall (.empty, clock) calls) :
    r.InOrder (r.afterCalls clock calls).2 (r.afterCalls clock calls).1 := by
  refine Transition.invariant_foldl (I := fun run : Timed => r.InOrder run.2 run.1)
    (fun _ _ inOrder le => InOrder.step inOrder le) ?_ ordered
  exact CachedStore.Everywhere.empty fun _ => ⟨[], .default clock⟩

/-- What a check of a key at an instant promises. -/
structure RetrySound (s : Store) (keyId : Option String) (cost now : Int) : Prop where
  waits : (r.checkLimitDetailed s keyId cost now).1.allowed = false →
    1 ≤ (r.checkLimitDetailed s keyId cost now).1.retryAfterSeconds
  frees : ∀ window : WindowLimit,
    (r.checkLimitDetailed s keyId cost now).1.reason = some window.reason →
      1 ≤ window.limit r → ∀ cost',
        (r.checkLimitDetailed (r.checkLimitDetailed s keyId cost now).2 keyId cost'
          (now + 1000 * (r.checkLimitDetailed s keyId cost now).1.retryAfterSeconds)).1.reason ≠
            some window.reason

theorem retry_sound_iff {s : Store} {keyId : Option String} {now : Int}
    (sorted : RateLimitEntry.gauge.Chronological
      (r.view s (r.resolveKeyId keyId) now).entries) (cost : Int) :
    r.RetrySound s keyId cost now ↔
      ∀ window : WindowLimit, window.Reached r (r.view s (r.resolveKeyId keyId) now) now →
        1 ≤ window.limit r →
          window.staying r (r.view s (r.resolveKeyId keyId) now) now < window.limit r := by
  let data := r.view s (r.resolveKeyId keyId) now
  have first : (r.checkLimitDetailed s keyId cost now).1 = r.evaluate data now cost := rfl
  have second (later cost' : Int) :
      (r.checkLimitDetailed (r.checkLimitDetailed s keyId cost now).2 keyId cost' later).1 =
        r.evaluate (r.prune data later) later cost' := by
    simp only [checkLimitDetailed, getData, view, load, CachedStore.load_setCache_self, data]
  have again {window : WindowLimit} (reached : window.Reached r data now) (cost' : Int) :
      (r.checkLimitDetailed (r.checkLimitDetailed s keyId cost now).2 keyId cost'
          (now + 1000 * (r.checkLimitDetailed s keyId cost now).1.retryAfterSeconds)).1.reason =
          some window.reason ↔ window.limit r ≤ window.staying r data now := by
    have denied : (r.evaluate data now cost).reason = some window.reason :=
      (r.evaluate_reason_iff window sorted).mpr reached
    have wait := r.evaluate_retryAfter denied
    have positive := calculateRetryAfter_pos data now (window.windowMs r)
    rw [second, first, wait, r.evaluate_reason_iff window (sorted.prune _),
      r.reached_later_iff (by omega) reached, WindowLimit.usage_after_wait]
  constructor
  · intro sound window reached positive
    have denied : (r.evaluate data now cost).reason = some window.reason :=
      (r.evaluate_reason_iff window sorted).mpr reached
    have free := sound.frees window denied positive cost
    exact not_le.mp fun full => free ((again reached cost).mpr full)
  · intro room
    refine ⟨r.evaluate_waits, fun window denied positive cost' denied' => ?_⟩
    have reached := (r.evaluate_reason_iff window sorted).mp denied
    exact absurd ((again reached cost').mp denied') (not_le.mpr (room window reached positive))

/-- After any calls, the wait a denial advertises is enough exactly when fewer requests than the
limit are stamped later than what departs in it. -/
theorem limiter_retry_sound_iff (clock : Int) (calls : List (Call × Int))
    (ordered : Transition.Guarded r.callStep OrderedCall (.empty, clock) calls)
    (keyId : Option String) (cost now : Int) (later : (r.afterCalls clock calls).2 ≤ now) :
    r.RetrySound (r.afterCalls clock calls).1 keyId cost now ↔
      ∀ window : WindowLimit,
        window.Reached r (r.view (r.afterCalls clock calls).1 (r.resolveKeyId keyId) now) now →
        1 ≤ window.limit r →
          window.staying r (r.view (r.afterCalls clock calls).1 (r.resolveKeyId keyId) now) now <
            window.limit r :=
  r.retry_sound_iff ((r.afterCalls_inOrder ordered).view (r.resolveKeyId keyId) later) cost

instance (run : Timed) (call : Call × Int) : Decidable (OrderedCall run call) :=
  inferInstanceAs (Decidable (_ ≤ _))

/-- One request a minute. -/
def singleRequest : RateLimiter := create { rpmLimit := some 1 }

theorem retry_after_sound_single :
    singleRequest.RetrySound (singleRequest.afterCalls 0 [(.increment (some "k") 0, 0)]).1
      (some "k") 0 30001 :=
  (singleRequest.limiter_retry_sound_iff 0 [(.increment (some "k") 0, 0)]
    ⟨by decide, trivial⟩ (some "k") 0 30001 (by decide)).mpr (by
      intro window _ _
      cases window <;> decide)

/-- The wait is over when the first of two requests has left, and the other is still counted. -/
theorem retry_after_unsound :
    Transition.Guarded singleRequest.callStep OrderedCall (.empty, 0)
        [(.increment (some "k") 0, 0), (.increment (some "k") 0, 30000)] ∧
      ¬singleRequest.RetrySound (singleRequest.afterCalls 0
        [(.increment (some "k") 0, 0), (.increment (some "k") 0, 30000)]).1 (some "k") 0 30001 := by
  refine ⟨⟨by decide, by decide, trivial⟩, fun sound => ?_⟩
  exact sound.frees .rpm (by decide) (by decide) 0 (by decide)

end KeyCollective.RateLimiter
