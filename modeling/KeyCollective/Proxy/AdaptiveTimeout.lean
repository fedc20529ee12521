import KeyCollective.Host
import KeyCollective.Lib.MovingAverage
import Mathlib.Data.Rat.Floor

/-!
# Adaptive timeouts

The client keeps a moving average of the latencies of each model, under its name in lower case,
and waits for three deviations above the mean. Numbers are rational.
-/

namespace KeyCollective.Upstream

structure LatencyStats where
  mean : Rat
  variance : Rat
  count : Nat
deriving DecidableEq

/-- `modelLatencyStats`. -/
abbrev LatencyMap := String → Option LatencyStats

structure TimeoutOptions where
  defaultTimeoutMs : Rat := 30000
  maxTimeoutCeilingMs : Rat := 300000
  minTimeoutFloorMs : Rat := 5000
  enableAdaptiveTimeout : Bool := true

/-- `Math.round`. -/
def mathRound (x : Rat) : Int := (x + 1 / 2).floor

/-- What a model's entry becomes with one more latency. -/
def averaged (current : Option LatencyStats) (latencyMs : Rat) : LatencyStats :=
  match current with
  | none => { mean := latencyMs, variance := 0, count := 1 }
  | some current =>
    let alpha : Rat := 1 / 5
    let delta := latencyMs - current.mean
    let newMean := current.mean + alpha * delta
    let newVariance := (1 - alpha) * (current.variance + alpha * delta * delta)
    { mean := newMean, variance := newVariance, count := current.count + 1 }

section

variable [Host]

def recordModelLatency (modelId : String) (latencyMs : Rat) (stats : LatencyMap) : LatencyMap :=
  if modelId = "" ∨ latencyMs ≤ 0 then stats
  else
    let key := Host.toLowerCase modelId
    Function.update stats key (some (averaged (stats key) latencyMs))

/-- `sqrt` is what the runtime takes for the square root. -/
def getAdaptiveTimeout (options : TimeoutOptions) (sqrt : Rat → Rat) (stats : LatencyMap)
    (modelId : Option String) (requestedTimeoutMs : Option Rat) : Rat :=
  match requestedTimeoutMs with
  | some requested => requested
  | none =>
    if options.enableAdaptiveTimeout = false ∨ isFalsy modelId then options.defaultTimeoutMs
    else
      match stats (Host.toLowerCase (modelId.getD "")) with
      | none => options.maxTimeoutCeilingMs
      | some stats =>
        if stats.count < 3 then options.maxTimeoutCeilingMs
        else
          let adaptive := mathRound (stats.mean + 3 * sqrt stats.variance)
          min options.maxTimeoutCeilingMs (max options.minTimeoutFloorMs adaptive)

/-- The calls of `recordModelLatency`, in order. -/
def recordAll (calls : List (String × Rat)) : LatencyMap :=
  calls.foldl (fun stats call => recordModelLatency call.1 call.2 stats) fun _ => none

/-- The latencies recorded under a name in lower case. -/
def samples (calls : List (String × Rat)) (key : String) : List Rat :=
  (calls.filter fun call =>
    call.1 ≠ "" ∧ 0 < call.2 ∧ Host.toLowerCase call.1 = key).map Prod.snd

end

/-! ## One model's latencies -/

def LatencyStats.moments (stats : LatencyStats) : MovingAverage.Moments Rat :=
  ⟨stats.mean, stats.variance⟩

/-- The stats after these samples. -/
def statsOf : List Rat → Option LatencyStats
  | [] => none
  | first :: later =>
    let moments := MovingAverage.run (1 / 5) first later
    some { mean := moments.mean, variance := moments.variance, count := later.length + 1 }

theorem statsOf_snoc (xs : List Rat) (x : Rat) :
    statsOf (xs ++ [x]) = some (averaged (statsOf xs) x) := by
  cases xs with
  | nil => rfl
  | cons first later => simp [statsOf, averaged, MovingAverage.run, MovingAverage.step]

theorem count_statsOf {xs : List Rat} {stats : LatencyStats} (kept : statsOf xs = some stats) :
    stats.count = xs.length := by
  cases xs with
  | nil => cases kept
  | cons first later =>
    cases kept
    rfl

section

variable [Host]

theorem samples_snoc (calls : List (String × Rat)) (modelId : String) (latencyMs : Rat)
    (key : String) :
    samples (calls ++ [(modelId, latencyMs)]) key =
      samples calls key ++
        if modelId ≠ "" ∧ 0 < latencyMs ∧ Host.toLowerCase modelId = key then [latencyMs] else [] := by
  rw [samples, List.filter_append, List.map_append, samples]
  congr 1
  by_cases own : modelId ≠ "" ∧ 0 < latencyMs ∧ Host.toLowerCase modelId = key
  · rw [if_pos own, List.filter_cons_of_pos (by simpa using own)]
    rfl
  · rw [if_neg own, List.filter_cons_of_neg (by simpa using own)]
    rfl

/-- One call adds its latency to the samples of its own model. -/
theorem recordModelLatency_eq (modelId : String) (latencyMs : Rat) {stats : LatencyMap}
    {calls : List (String × Rat)} (before : ∀ key, stats key = statsOf (samples calls key))
    (key : String) :
    recordModelLatency modelId latencyMs stats key =
      statsOf (samples (calls ++ [(modelId, latencyMs)]) key) := by
  rw [recordModelLatency, samples_snoc]
  by_cases discarded : modelId = "" ∨ latencyMs ≤ 0
  · have dropped : ¬(modelId ≠ "" ∧ 0 < latencyMs ∧ Host.toLowerCase modelId = key) := by
      rintro ⟨named, positive, -⟩
      exact discarded.elim named (not_le.mpr positive)
    rw [if_pos discarded, if_neg dropped, List.append_nil, before]
  · have kept := not_or.mp discarded
    rw [if_neg discarded]
    by_cases own : key = Host.toLowerCase modelId
    · subst own
      rw [if_pos ⟨kept.1, not_le.mp kept.2, rfl⟩, Function.update_self, statsOf_snoc, before]
    · rw [if_neg fun recorded => own recorded.2.2.symm, List.append_nil,
        Function.update_of_ne own, before]

/-- The stats of a model are those of its own latencies, however the calls interleave. -/
theorem recordAll_eq (calls : List (String × Rat)) (key : String) :
    recordAll calls key = statsOf (samples calls key) := by
  induction calls using List.reverseRecOn generalizing key with
  | nil => rfl
  | append_singleton calls call ih =>
    rw [recordAll, List.foldl_append]
    exact recordModelLatency_eq call.1 call.2 ih key

/-- The stats that these samples may have. -/
structure Sound (xs : List Rat) (stats : LatencyStats) : Prop where
  counted : stats.count = xs.length
  mean : ∃ lo hi, IsLeast {x | x ∈ xs} lo ∧ IsGreatest {x | x ∈ xs} hi ∧
    lo ≤ stats.mean ∧ stats.mean ≤ hi
  nonneg : 0 ≤ stats.variance
  spread : ∃ distance, IsGreatest {d | ∃ x ∈ xs, ∃ y ∈ xs, d = |x - y|} distance ∧
    stats.variance ≤ distance ^ 2

omit [Host] in
theorem sound_statsOf {xs : List Rat} {stats : LatencyStats} (kept : statsOf xs = some stats) :
    Sound xs stats := by
  have counted := count_statsOf kept
  cases xs with
  | nil => cases kept
  | cons first later =>
    obtain ⟨lo, hi, least, greatest, furthest⟩ := MovingAverage.exists_range first later
    have within : MovingAverage.Within lo hi (MovingAverage.run (1 / 5) first later) :=
      MovingAverage.within_run (by norm_num) (by norm_num) fun x mem =>
        ⟨least.2 mem, greatest.2 mem⟩
    obtain rfl := Option.some.inj kept
    exact ⟨counted, ⟨lo, hi, least, greatest, within.lower, within.upper⟩, within.nonneg,
      hi - lo, furthest, within.spread⟩

omit [Host] in
theorem statsOf_eq_none_iff {xs : List Rat} : statsOf xs = none ↔ xs = [] := by
  cases xs <;> simp [statsOf]

/-- The latencies recorded for a model. There are none for a model without a name. -/
def latenciesOf (calls : List (String × Rat)) (modelId : String) : List Rat :=
  if modelId = "" then [] else samples calls (Host.toLowerCase modelId)

/-! ## The timeout -/

variable (options : TimeoutOptions) (sqrt : Rat → Rat)

/-- Only the model's own stats are read. -/
theorem getAdaptiveTimeout_congr {stats other : LatencyMap} {modelId : String}
    (same : stats (Host.toLowerCase modelId) = other (Host.toLowerCase modelId))
    (requestedTimeoutMs : Option Rat) :
    getAdaptiveTimeout options sqrt stats (some modelId) requestedTimeoutMs =
      getAdaptiveTimeout options sqrt other (some modelId) requestedTimeoutMs := by
  unfold getAdaptiveTimeout
  cases requestedTimeoutMs with
  | some requested => rfl
  | none => simp only [Option.getD_some, same]

theorem getAdaptiveTimeout_within (adaptive : options.enableAdaptiveTimeout = true)
    (ordered : options.minTimeoutFloorMs ≤ options.maxTimeoutCeilingMs) (stats : LatencyMap)
    {modelId : String} (named : modelId ≠ "") :
    options.minTimeoutFloorMs ≤ getAdaptiveTimeout options sqrt stats (some modelId) none ∧
      getAdaptiveTimeout options sqrt stats (some modelId) none ≤ options.maxTimeoutCeilingMs := by
  have given : ¬(options.enableAdaptiveTimeout = false ∨ isFalsy (some modelId) = true) := by
    simp [adaptive, isFalsy, named]
  simp only [getAdaptiveTimeout, given, if_false, Option.getD_some]
  cases stats (Host.toLowerCase modelId) with
  | none => exact ⟨ordered, le_rfl⟩
  | some stats =>
    simp only
    split
    · exact ⟨ordered, le_rfl⟩
    · exact ⟨le_min ordered (le_max_left _ _), min_le_left _ _⟩

/-- A call for another model leaves the samples of this one. -/
theorem samples_own (calls : List (String × Rat)) (key : String) :
    samples (calls.filter fun call => Host.toLowerCase call.1 = key) key = samples calls key := by
  rw [samples, List.filter_filter, samples]
  congr 1
  refine List.filter_congr fun call _ => ?_
  by_cases own : Host.toLowerCase call.1 = key
  · simp [own]
  · simp [own]

/-- What recording latencies leads to, in whatever order the models' calls come. -/
structure WellDefined (options : TimeoutOptions) (sqrt : Rat → Rat) (calls : List (String × Rat)) :
    Prop where
  stats : ∀ modelId kept, recordAll calls (Host.toLowerCase modelId) = some kept →
    Sound (samples calls (Host.toLowerCase modelId)) kept
  recorded : ∀ modelId, (recordAll calls (Host.toLowerCase modelId)).isSome ↔
    samples calls (Host.toLowerCase modelId) ≠ []
  bounded : options.enableAdaptiveTimeout = true →
    options.minTimeoutFloorMs ≤ options.maxTimeoutCeilingMs →
      ∀ modelId, 3 ≤ (latenciesOf calls modelId).length →
        options.minTimeoutFloorMs ≤
            getAdaptiveTimeout options sqrt (recordAll calls) (some modelId) none ∧
          getAdaptiveTimeout options sqrt (recordAll calls) (some modelId) none ≤
            options.maxTimeoutCeilingMs
  own : ∀ modelId, getAdaptiveTimeout options sqrt (recordAll calls) (some modelId) none =
    getAdaptiveTimeout options sqrt
      (recordAll (calls.filter fun call => Host.toLowerCase call.1 = Host.toLowerCase modelId))
      (some modelId) none

theorem adaptive_timeouts_well_defined (calls : List (String × Rat)) :
    WellDefined options sqrt calls where
  stats modelId kept found := sound_statsOf (recordAll_eq calls _ ▸ found)
  recorded modelId := by
    rw [recordAll_eq, Option.isSome_iff_ne_none, ne_eq, statsOf_eq_none_iff]
  bounded adaptive ordered modelId often := by
    refine getAdaptiveTimeout_within options sqrt adaptive ordered _ ?_
    rintro rfl
    rw [latenciesOf, if_pos rfl, List.length_nil] at often
    omega
  own modelId := by
    refine getAdaptiveTimeout_congr options sqrt ?_ none
    rw [recordAll_eq, recordAll_eq, samples_own]

end

section

attribute [local instance] asciiHost

/-- Without adaptation the default timeout may lie below the floor. -/
theorem unadapted_timeout_below_floor :
    let options : TimeoutOptions := { defaultTimeoutMs := 1000, enableAdaptiveTimeout := false }
    let calls : List (String × Rat) := [("gpt-4o", 9000), ("GPT-4o", 8000), ("gpt-4o", 9000)]
    options.minTimeoutFloorMs ≤ options.maxTimeoutCeilingMs ∧
      3 ≤ (latenciesOf calls "gpt-4o").length ∧
        getAdaptiveTimeout options (fun _ => 0) (recordAll calls) (some "gpt-4o") none <
          options.minTimeoutFloorMs := by
  decide

end

end KeyCollective.Upstream
