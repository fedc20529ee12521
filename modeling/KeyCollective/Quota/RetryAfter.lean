import KeyCollective.Quota.Evaluator
import Mathlib.Algebra.Order.Group.Nat

/-!
# The advertised wait

A denial names a wait in seconds. Whether the same check passes after it depends
on how much of the usage the check counted has left the window by then. The wait
of a minute check is taken from the tenant's oldest entry in the window, whatever
that entry weighs and whichever project it belongs to.
-/

namespace KeyCollective.Quota

open SlidingWindow

variable (request : ConsumeQuotaRequest) (ctx : QuotaEvaluationContext)

/-- The same tenant some seconds later, with nothing consumed in between. -/
def QuotaEvaluationContext.after (seconds : Int) : QuotaEvaluationContext :=
  { ctx with now := ctx.now + 1000 * seconds }

namespace QuotaErrorCode

/-- Entries stamped no later than this have left the window of the check once the
wait is over: for a minute check, the tenant's oldest entry in the window and
those that follow it by less than what rounds its wait up to a whole second. -/
def departed : QuotaErrorCode → Int
  | userDailyQuotaExhausted => ctx.now + 86400000 - ctx.rpdWindowMs
  | userQuotaExhausted | projectSubCapExceeded =>
    match ctx.entries.find? fun e => ctx.now - ctx.rpmWindowMs < e.timestamp with
    | some oldest => oldest.timestamp + (ctx.now - ctx.rpmWindowMs - oldest.timestamp) % 1000
    | none => ctx.now + 60000 - ctx.rpmWindowMs

/-- The usage the check counted that leaves its window within the wait. -/
def relief (code : QuotaErrorCode) : Nat :=
  QuotaEntry.gauge.total
    (fun e => (ctx.now - code.window ctx < e.timestamp ∧ inScope (code.scope request) e) ∧
      e.timestamp ≤ code.departed ctx) ctx.entries

end QuotaErrorCode

/-- What leaves the window makes up for what the request is over the limit. -/
def Relieved (code : QuotaErrorCode) : Prop :=
  (((code.usage request ctx + request.requestedCount : Nat) : Int) : Limit) ≤
    code.limit request ctx + ((code.relief request ctx : Int) : Limit)

instance (code : QuotaErrorCode) : Decidable (Relieved request ctx code) :=
  inferInstanceAs (Decidable (_ ≤ _))

/-! ## The state after the wait -/

theorem ceilSeconds_spec (ms : Int) : 1000 * ceilSeconds ms = ms + -ms % 1000 := by
  unfold ceilSeconds
  omega

/-- What has departed is what the window of the check no longer covers after the wait. -/
theorem QuotaErrorCode.departed_eq (code : QuotaErrorCode) :
    code.departed ctx = ctx.now + 1000 * code.retryAfterSeconds ctx - code.window ctx := by
  have minute : 1000 * calculateRpmRetryAfter ctx.entries ctx.rpmWindowMs ctx.now =
      QuotaErrorCode.departed ctx .userQuotaExhausted - ctx.now + ctx.rpmWindowMs := by
    simp only [calculateRpmRetryAfter, QuotaErrorCode.departed]
    cases live : ctx.entries.find? fun e => ctx.now - ctx.rpmWindowMs < e.timestamp with
    | none =>
      simp only
      omega
    | some oldest =>
      have late : ctx.now - ctx.rpmWindowMs < oldest.timestamp := by
        simpa using List.find?_some live
      have rounded := ceilSeconds_spec (oldest.timestamp + ctx.rpmWindowMs - ctx.now)
      have positive : 1 ≤ ceilSeconds (oldest.timestamp + ctx.rpmWindowMs - ctx.now) := by
        omega
      simp only [max_eq_right positive, rounded]
      have same : -(oldest.timestamp + ctx.rpmWindowMs - ctx.now) =
          ctx.now - ctx.rpmWindowMs - oldest.timestamp := by omega
      rw [same]
      omega
  cases code with
  | userQuotaExhausted =>
    simp only [QuotaErrorCode.retryAfterSeconds, QuotaErrorCode.window]
    omega
  | userDailyQuotaExhausted =>
    simp only [QuotaErrorCode.departed, QuotaErrorCode.retryAfterSeconds, QuotaErrorCode.window]
    omega
  | projectSubCapExceeded =>
    have same : QuotaErrorCode.departed ctx .projectSubCapExceeded =
      QuotaErrorCode.departed ctx .userQuotaExhausted := rfl
    simp only [same, QuotaErrorCode.retryAfterSeconds, QuotaErrorCode.window]
    omega

theorem retryAfterSeconds_nonneg (code : QuotaErrorCode) : 0 ≤ code.retryAfterSeconds ctx := by
  have minute : 0 ≤ calculateRpmRetryAfter ctx.entries ctx.rpmWindowMs ctx.now := by
    unfold calculateRpmRetryAfter
    split
    · omega
    · omega
  cases code with
  | userQuotaExhausted => exact minute
  | userDailyQuotaExhausted => exact Int.natCast_nonneg 86400
  | projectSubCapExceeded => exact minute

/-- Of the usage a check counts, the relief is gone after its wait and the rest is left. -/
theorem usage_after_wait (code : QuotaErrorCode) :
    code.usage request (ctx.after (code.retryAfterSeconds ctx)) + code.relief request ctx =
      code.usage request ctx := by
  have wait := retryAfterSeconds_nonneg ctx code
  have departed := code.departed_eq ctx
  have left : code.usage request (ctx.after (code.retryAfterSeconds ctx)) =
      QuotaEntry.gauge.total
        (fun e => (ctx.now - code.window ctx < e.timestamp ∧ inScope (code.scope request) e) ∧
          ¬e.timestamp ≤ code.departed ctx) ctx.entries := by
    rw [QuotaErrorCode.usage, calculateUsage_eq]
    apply Gauge.total_congr
    intro e _
    have same : code.window (ctx.after (code.retryAfterSeconds ctx)) = code.window ctx := by
      cases code <;> rfl
    rw [same]
    apply decide_eq_decide.mpr
    simp only [QuotaEvaluationContext.after]
    constructor
    · rintro ⟨late, scope⟩
      exact ⟨⟨by omega, scope⟩, by omega⟩
    · rintro ⟨⟨-, scope⟩, staying⟩
      exact ⟨by omega, scope⟩
  rw [left, QuotaErrorCode.usage, calculateUsage_eq, Nat.add_comm]
  have split := QuotaEntry.gauge.total_split
    (fun e => ctx.now - code.window ctx < e.timestamp ∧ inScope (code.scope request) e)
    (fun e => e.timestamp ≤ code.departed ctx) ctx.entries
  simp only [decide_eq_true_eq] at split
  exact split.symm

/-- Waiting only lets entries leave a window. -/
theorem usage_after_le (code : QuotaErrorCode) {seconds : Int} (forward : 0 ≤ seconds) :
    code.usage request (ctx.after seconds) ≤ code.usage request ctx := by
  rw [QuotaErrorCode.usage, QuotaErrorCode.usage, calculateUsage_eq, calculateUsage_eq]
  have same : code.window (ctx.after seconds) = code.window ctx := by cases code <;> rfl
  rw [same]
  apply Gauge.total_le
  intro e _ counted
  obtain ⟨late, scope⟩ := of_decide_eq_true counted
  simp only [QuotaEvaluationContext.after] at late
  exact decide_eq_true ⟨by omega, scope⟩

theorem passes_after (code : QuotaErrorCode) {seconds : Int} (forward : 0 ≤ seconds)
    (passes : code.fails request ctx = false) :
    code.fails request (ctx.after seconds) = false := by
  have fewer := usage_after_le request ctx code forward
  have same : code.limit request (ctx.after seconds) = code.limit request ctx := by
    cases code <;> rfl
  rw [QuotaErrorCode.fails, decide_eq_false_iff_not] at passes ⊢
  intro fails
  apply passes
  refine ⟨fails.1, ?_⟩
  have exceeds := (Limit.exceeded_iff _ _).mp fails.2
  rw [same] at exceeds
  apply (Limit.exceeded_iff _ _).mpr
  apply lt_of_lt_of_le exceeds
  exact_mod_cast Nat.add_le_add_right fewer request.requestedCount

/-- A denied check fails again after its wait unless enough usage has left. -/
theorem fails_after_wait (code : QuotaErrorCode) (fails : code.fails request ctx = true) :
    code.fails request (ctx.after (code.retryAfterSeconds ctx)) = false ↔
      Relieved request ctx code := by
  have made := (of_decide_eq_true fails).1
  have same : code.limit request (ctx.after (code.retryAfterSeconds ctx)) =
      code.limit request ctx := by cases code <;> rfl
  have left := usage_after_wait request ctx code
  have again : code.fails request (ctx.after (code.retryAfterSeconds ctx)) =
      (code.limit request ctx).exceeded
        (code.usage request (ctx.after (code.retryAfterSeconds ctx)) +
          request.requestedCount) := by
    rw [QuotaErrorCode.fails, same]
    cases (code.limit request ctx).exceeded
      (code.usage request (ctx.after (code.retryAfterSeconds ctx)) + request.requestedCount) with
    | true => exact decide_eq_true ⟨made, rfl⟩
    | false => simp
  rw [again, Limit.not_exceeded_iff_freed _ _ (code.relief request ctx), Relieved]
  have regroup : code.usage request (ctx.after (code.retryAfterSeconds ctx)) +
      request.requestedCount + code.relief request ctx =
        code.usage request ctx + request.requestedCount := by omega
  rw [regroup]

/-- The checks before the one that failed still pass later, so a denial for the same
code means that its check fails again. -/
theorem firstFailure_after {code : QuotaErrorCode} {seconds : Int} (forward : 0 ≤ seconds)
    (first : QuotaErrorCode.firstFailure request ctx = some code) :
    QuotaErrorCode.firstFailure request (ctx.after seconds) = some code ↔
      code.fails request (ctx.after seconds) = true := by
  constructor
  · exact QuotaErrorCode.fails_firstFailure request (ctx.after seconds)
  · intro fails
    obtain ⟨-, before, after, split, passed⟩ := List.find?_eq_some_iff_append.mp first
    apply List.find?_eq_some_iff_append.mpr
    refine ⟨fails, before, after, split, ?_⟩
    intro earlier mem
    have passes : earlier.fails request ctx = false := by simpa using passed earlier mem
    simpa using passes_after request ctx earlier forward passes

/-- After the wait a denial advertises, the same request is not denied for the same
reason exactly when what the window of the check has lost by then makes up for what
the request was over the limit. -/
theorem retry_after_sound_iff {code : QuotaErrorCode} {seconds : Int}
    (denied : (evaluateQuota request ctx).result.errorCode = some code)
    (wait : (evaluateQuota request ctx).result.retryAfterSeconds = some seconds) :
    (evaluateQuota request (ctx.after seconds)).result.errorCode ≠ some code ↔
      Relieved request ctx code := by
  rcases evaluateQuota_cases request ctx with ⟨first, failed, -, reported, advertised, -⟩ | other
  · obtain rfl : first = code := Option.some.inj (reported.symm.trans denied)
    obtain rfl : first.retryAfterSeconds ctx = seconds :=
      Option.some.inj (advertised.symm.trans wait)
    have fails := QuotaErrorCode.fails_firstFailure request ctx failed
    have forward := retryAfterSeconds_nonneg ctx first
    rw [evaluateQuota_errorCode, ne_eq, firstFailure_after request ctx forward failed,
      Bool.not_eq_true]
    exact fails_after_wait request ctx first fails
  · rw [other.2.2.1] at denied
    exact absurd denied (Option.some_ne_none code).symm

/-- A builder whose project `a` asked once, and whose project `b` five times half a
minute later, under a sub-cap of five. -/
def twoProjects (now : Int) : QuotaEvaluationContext where
  tenantId := "acme"
  tier := .builder
  entries := ⟨0, 1, 0, some "a"⟩ :: List.replicate 5 ⟨30000, 1, 0, some "b"⟩
  totalCostMicrodollars := 0
  debt := ⟨0, 0, false, 0, 150⟩
  rpmWindowMs := 60000
  rpdWindowMs := 86400000
  now := now

/-- Project `a` waits for its own entry. -/
theorem retry_after_sound_one_project :
    (evaluateQuota { projectId := some "a", projectMaxSubCap := some 1 }
        ((twoProjects 31000).after 29)).result.errorCode ≠ some .projectSubCapExceeded ↔
      Relieved { projectId := some "a", projectMaxSubCap := some 1 } (twoProjects 31000)
        .projectSubCapExceeded :=
  retry_after_sound_iff _ _ (by decide) (by decide)

/-- The wait is over when the entry of `a` expires, which frees nothing for `b`. -/
theorem denied_again_after_wait :
    ∃ request ctx code seconds,
      QuotaEntry.gauge.Chronological ctx.entries ∧
      (∀ e ∈ ctx.entries, e.timestamp ≤ ctx.now) ∧
      ((request.requestedCount : Int) : Limit) ≤ code.limit request ctx ∧
      (evaluateQuota request ctx).result.errorCode = some code ∧
      (evaluateQuota request ctx).result.retryAfterSeconds = some seconds ∧
      (evaluateQuota request (ctx.after seconds)).result.errorCode = some code :=
  ⟨{ projectId := some "b", projectMaxSubCap := some 5 }, twoProjects 31000,
    .projectSubCapExceeded, 29, by unfold Gauge.Chronological; decide, by decide, by decide,
    by decide, by decide, by decide⟩

/-- A daily denial is sound: with a window of at most a day, all of the history is gone
when a day is over. -/
theorem relieved_daily (past : ∀ e ∈ ctx.entries, e.timestamp ≤ ctx.now)
    (day : ctx.rpdWindowMs ≤ 86400000)
    (fits : ((request.requestedCount : Int) : Limit) ≤
      QuotaErrorCode.userDailyQuotaExhausted.limit request ctx) :
    Relieved request ctx .userDailyQuotaExhausted := by
  have all : QuotaErrorCode.userDailyQuotaExhausted.relief request ctx =
      QuotaErrorCode.userDailyQuotaExhausted.usage request ctx := by
    rw [QuotaErrorCode.relief, QuotaErrorCode.usage, calculateUsage_eq]
    apply Gauge.total_congr
    intro e mem
    have before := past e mem
    apply decide_eq_decide.mpr
    simp only [QuotaErrorCode.departed]
    constructor
    · exact fun counted => counted.1
    · exact fun counted => ⟨counted, by omega⟩
  have room := (Limit.not_exceeded_iff _ _).mpr fits
  rw [Relieved, all, Nat.add_comm]
  exact (Limit.not_exceeded_iff_freed _ _ _).mp room

end KeyCollective.Quota
