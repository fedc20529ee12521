import KeyCollective.Auth.DemoLimits

/-!
# The counters of a recorded request

A recording reports the counts after it. Over all IPs it reports the requests of the last day,
where a check counts those of the last minute.
-/

namespace KeyCollective

namespace DemoRateLimitResult

/-- The counts with their limits, and so what is left of each. -/
def usage (result : DemoRateLimitResult) : List (Nat × Nat) :=
  [(result.currentRpm, result.rpmLimit), (result.currentRpd, result.rpdLimit),
    (result.globalRpm, result.globalRpmLimit)]

end DemoRateLimitResult

namespace DemoSandbox

variable (sandbox : DemoSandbox) (ip : String) (now : Int)

/-- One of the four counts is at its limit. -/
def Exhausted : Prop :=
  sandbox.config.ipRpmLimit ≤
      (within minuteMs now (within dayMs now (sandbox.timestampsOf ip))).length ∨
    sandbox.config.ipRpdLimit ≤ (within dayMs now (sandbox.timestampsOf ip)).length ∨
    sandbox.config.globalRpmLimit ≤ (within minuteMs now sandbox.globalTimestamps).length ∨
    sandbox.config.globalRpdLimit ≤ (within dayMs now sandbox.globalTimestamps).length

theorem checkRateLimit_refused_iff :
    (sandbox.checkRateLimit ip now).allowed = false ↔ sandbox.Exhausted ip now := by
  rw [← Bool.not_eq_true, checkRateLimit_allowed_iff, Exhausted]
  omega

/-- The counts of a check do not depend on its verdict. -/
theorem usage_checkRateLimit :
    (sandbox.checkRateLimit ip now).usage =
      [((within minuteMs now (within dayMs now (sandbox.timestampsOf ip))).length,
          sandbox.config.ipRpmLimit),
        ((within dayMs now (sandbox.timestampsOf ip)).length, sandbox.config.ipRpdLimit),
        ((within minuteMs now sandbox.globalTimestamps).length,
          sandbox.config.globalRpmLimit)] := by
  unfold checkRateLimit
  simp only
  split_ifs <;> rfl

/-- A timestamp that was kept is kept again in the same window. -/
theorem within_within (width : Int) (timestamps : List Int) :
    within width now (within width now timestamps) = within width now timestamps := by
  simp [within, List.filter_filter]

theorem within_snoc {width : Int} (positive : 0 < width) (timestamps : List Int) :
    within width now (timestamps ++ [now]) = within width now timestamps ++ [now] := by
  have kept : now - width < now := by omega
  simp [within, kept]

theorem minute_day (timestamps : List Int) :
    within minuteMs now (within dayMs now timestamps) = within minuteMs now timestamps := by
  unfold within
  rw [List.filter_filter]
  refine List.filter_congr fun t _ => ?_
  rw [← Bool.decide_and, decide_eq_decide]
  unfold minuteMs dayMs
  omega

/-- As many timestamps in the last minute as in the last day. -/
theorem length_minute_day (timestamps : List Int) :
    (within minuteMs now timestamps).length = (within dayMs now timestamps).length ↔
      ∀ t ∈ timestamps, ¬(now - dayMs < t ∧ t ≤ now - minuteMs) := by
  rw [← minute_day]
  have all : (within minuteMs now (within dayMs now timestamps)).length =
      (within dayMs now timestamps).length ↔
        ∀ t ∈ within dayMs now timestamps, decide (now - minuteMs < t) = true :=
    List.length_filter_eq_length_iff
  rw [all]
  simp only [within, List.mem_filter, decide_eq_true_eq, and_imp, not_and, not_le]

/-- The counts of a recording are those of the next check just when it was refused or no
request of the last day, from any IP, is older than a minute. -/
theorem counters_agree_iff :
    (sandbox.recordRequest ip now).1.usage =
        ((sandbox.recordRequest ip now).2.checkRateLimit ip now).usage ↔
      sandbox.Exhausted ip now ∨
        ∀ t ∈ sandbox.globalTimestamps, ¬(now - dayMs < t ∧ t ≤ now - minuteMs) := by
  rw [← checkRateLimit_refused_iff]
  cases allowed : (sandbox.checkRateLimit ip now).allowed with
  | false =>
    rw [recordRequest_refused allowed]
    simp
  | true =>
    have stored := sandbox.timestampsOf_record allowed ip
    rw [if_pos rfl] at stored
    have global : (sandbox.recordRequest ip now).2.globalTimestamps =
        within dayMs now sandbox.globalTimestamps ++ [now] := by
      simp [recordRequest, allowed]
    have reported : (sandbox.recordRequest ip now).1.usage =
        [((within minuteMs now (within dayMs now (sandbox.timestampsOf ip) ++ [now])).length,
            sandbox.config.ipRpmLimit),
          ((within dayMs now (sandbox.timestampsOf ip) ++ [now]).length,
            sandbox.config.ipRpdLimit),
          ((within dayMs now sandbox.globalTimestamps ++ [now]).length,
            sandbox.config.globalRpmLimit)] := by
      simp [recordRequest, allowed, DemoRateLimitResult.usage]
    have day : (0 : Int) < dayMs := by decide
    have minute : (0 : Int) < minuteMs := by decide
    rw [reported, usage_checkRateLimit, stored, global, config_record, within_snoc now day,
      within_within, within_snoc now minute (within dayMs now sandbox.globalTimestamps), minute_day,
      ← length_minute_day]
    simp [eq_comm]

/-- The sandbox has admitted one request, at time 0. -/
def visited : DemoSandbox :=
  ((create {}).recordRequest "10.0.0.1" 0).2

/-- The request of a minute ago is among those of the day only. -/
theorem counters_disagree :
    let (reported, after) := visited.recordRequest "10.0.0.2" 120000
    (reported.allowed, reported.globalRpm) = (true, 2) ∧
      (after.checkRateLimit "10.0.0.2" 120000).globalRpm = 1 := by
  decide

end DemoSandbox

end KeyCollective
