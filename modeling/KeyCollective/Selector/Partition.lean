import KeyCollective.Lib.Partition
import KeyCollective.Selector.Triage

/-!
# Triage splits the candidates

Each candidate has one verdict, whatever was triaged before it, and stands in the list of that
verdict. The delay reported is the shortest of the keys that are blocked.
-/

namespace KeyCollective

/-- The list a key is put into. -/
inductive Gate where
  | healthy
  | disabled
  | circuitBroken
  | rateLimited
deriving DecidableEq, Repr

def Gate.all : List Gate := [.healthy, .disabled, .circuitBroken, .rateLimited]

def Verdict.gate {κ : Type} : Verdict κ → Gate
  | .healthy => .healthy
  | .disabled _ => .disabled
  | .circuitBroken _ => .circuitBroken
  | .rateLimited _ => .rateLimited

variable [Host] {κ : Type} [SelectableKey κ] (ctx : TriageContext)

/-! ## The gates -/

/-- The breaker lets the key through at the instant of the triage. -/
def breakerPermits (health : KeyHealth) (key : κ) : Prop :=
  match ctx.circuitBreaker with
  | some b => (b.canExecute health.breaker (some (SelectableKey.id key)) ctx.now).1 = true
  | none => ∀ openUntilMs, SelectableKey.circuitOpenUntil key = some openUntilMs →
      openUntilMs ≤ ctx.now

/-- The limiter lets the key through. -/
def limiterPasses (health : KeyHealth) (key : κ) : Prop :=
  ∀ r, ctx.rateLimiter = some r →
    (r.checkLimitDetailed health.limiter (some (SelectableKey.id key)) ctx.costMicrodollars
      ctx.now).1.allowed = true

/-- Seconds until a key that the breaker bars may be tried again. -/
def breakerDelay (health : KeyHealth) (key : κ) : Nat :=
  match ctx.circuitBreaker with
  | some b => (b.getRetryAfterSeconds health.breaker (some (SelectableKey.id key)) ctx.now).1
  | none => ((SelectableKey.circuitOpenUntil key).map fun openUntilMs =>
      max 1 (ceilSeconds (openUntilMs - ctx.now))).getD 0

def limiterDelay (health : KeyHealth) (key : κ) : Nat :=
  match ctx.rateLimiter with
  | some r => (r.checkLimitDetailed health.limiter (some (SelectableKey.id key))
      ctx.costMicrodollars ctx.now).1.retryAfterSeconds
  | none => 0

/-- A delay of nothing is the default. -/
def orDefault (delay : Nat) : Nat := if 0 < delay then delay else defaultRetryAfterSeconds

omit [Host] in
theorem orDefault_pos (delay : Nat) : 1 ≤ orDefault delay := by
  unfold orDefault
  split
  · assumption
  · decide

variable {ctx}

omit [Host] in
theorem breakerFinding_eq_none_iff {health : KeyHealth} {key : κ} :
    breakerFinding ctx key health = none ↔ breakerPermits ctx health key := by
  unfold breakerFinding breakerPermits
  cases ctx.circuitBreaker with
  | some b => simp [CircuitBreaker.canExecute]
  | none =>
    simp only [ownCircuit]
    cases SelectableKey.circuitOpenUntil key with
    | none => simp
    | some openUntilMs => simp

omit [Host] in
theorem limiterFinding_eq_none_iff {health : KeyHealth} {key : κ} :
    limiterFinding ctx key health = none ↔ limiterPasses ctx health key := by
  unfold limiterFinding limiterPasses
  cases ctx.rateLimiter with
  | some r => simp [RateLimiter.checkLimitDetailed]
  | none => simp

omit [Host] in
theorem breakerFinding_item {health : KeyHealth} {key : κ} {item : KeyTriageItem κ}
    (found : breakerFinding ctx key health = some item) :
    item.key = key ∧ item.retryAfterSeconds = some (orDefault (breakerDelay ctx health key)) := by
  unfold breakerFinding at found
  unfold breakerDelay
  cases hb : ctx.circuitBreaker with
  | some b =>
    simp only [hb] at found
    split at found
    · cases found
    · cases found
      refine ⟨rfl, ?_⟩
      simp only [brokenItem, orDefault, CircuitBreaker.getRetryAfterSeconds,
        CircuitBreaker.getData_fst, CircuitBreaker.resolveKeyId_some]
      rfl
  | none =>
    simp only [hb, ownCircuit] at found
    cases own : SelectableKey.circuitOpenUntil key with
    | none => simp [own] at found
    | some openUntilMs =>
      simp only [own] at found
      split at found
      · cases found
        exact ⟨rfl, rfl⟩
      · cases found

omit [Host] in
theorem limiterFinding_item {health : KeyHealth} {key : κ} {item : KeyTriageItem κ}
    (found : limiterFinding ctx key health = some item) :
    item.key = key ∧ item.retryAfterSeconds = some (orDefault (limiterDelay ctx health key)) := by
  unfold limiterFinding at found
  unfold limiterDelay
  cases hr : ctx.rateLimiter with
  | some r =>
    simp only [hr] at found
    split at found
    · cases found
    · cases found
      refine ⟨rfl, ?_⟩
      simp only [limitedItem, orDefault, RateLimiter.checkLimitDetailed, RateLimiter.getData_fst,
        RateLimiter.resolveKeyId_some]
      rfl
  | none => simp [hr] at found

/-! ## The lists -/

variable (ctx) in
/-- The list a key is put into, from the state triage starts in. -/
def gate (health : KeyHealth) (key : κ) : Gate := (verdict ctx health key).gate

variable (ctx) in
/-- The list says what held of the key at each check. -/
theorem gate_cases (health : KeyHealth) (key : κ) :
    (gate ctx health key = .disabled ∧ isStatusPermitted (SelectableKey.status key) ≠ none) ∨
      isStatusPermitted (SelectableKey.status key) = none ∧
        ((gate ctx health key = .circuitBroken ∧ ¬breakerPermits ctx health key) ∨
          breakerPermits ctx health key ∧
            ((gate ctx health key = .rateLimited ∧ ¬limiterPasses ctx health key) ∨
              gate ctx health key = .healthy ∧ limiterPasses ctx health key)) := by
  rw [← breakerFinding_eq_none_iff, ← limiterFinding_eq_none_iff]
  unfold gate verdict
  cases isStatusPermitted (SelectableKey.status key) with
  | some reason => simp [Verdict.gate]
  | none =>
    cases breakerFinding ctx key health with
    | some item => simp [Verdict.gate]
    | none => cases limiterFinding ctx key health <;> simp [Verdict.gate]

theorem gate_healthy_iff {health : KeyHealth} {key : κ} :
    gate ctx health key = .healthy ↔
      isStatusPermitted (SelectableKey.status key) = none ∧ breakerPermits ctx health key ∧
        limiterPasses ctx health key := by
  rcases gate_cases ctx health key with
    ⟨gate, refused⟩ | ⟨permitted, ⟨gate, barred⟩ | ⟨permits, ⟨gate, limited⟩ | ⟨gate, passes⟩⟩⟩
  all_goals simp_all

theorem gate_disabled_iff {health : KeyHealth} {key : κ} :
    gate ctx health key = .disabled ↔
      isStatusPermitted (SelectableKey.status key) ≠ none := by
  rcases gate_cases ctx health key with
    ⟨gate, refused⟩ | ⟨permitted, ⟨gate, barred⟩ | ⟨permits, ⟨gate, limited⟩ | ⟨gate, passes⟩⟩⟩
  all_goals simp_all

theorem gate_circuitBroken_iff {health : KeyHealth} {key : κ} :
    gate ctx health key = .circuitBroken ↔
      isStatusPermitted (SelectableKey.status key) = none ∧ ¬breakerPermits ctx health key := by
  rcases gate_cases ctx health key with
    ⟨gate, refused⟩ | ⟨permitted, ⟨gate, barred⟩ | ⟨permits, ⟨gate, limited⟩ | ⟨gate, passes⟩⟩⟩
  all_goals simp_all

theorem gate_rateLimited_iff {health : KeyHealth} {key : κ} :
    gate ctx health key = .rateLimited ↔
      isStatusPermitted (SelectableKey.status key) = none ∧ breakerPermits ctx health key ∧
        ¬limiterPasses ctx health key := by
  rcases gate_cases ctx health key with
    ⟨gate, refused⟩ | ⟨permitted, ⟨gate, barred⟩ | ⟨permits, ⟨gate, limited⟩ | ⟨gate, passes⟩⟩⟩
  all_goals simp_all

/-- An item names the key it is of. -/
theorem verdict_named (ctx : TriageContext) (health : KeyHealth) (key : κ) :
    match verdict ctx health key with
    | .healthy => True
    | .disabled item => item.key = key
    | .circuitBroken item => item.key = key ∧
        item.retryAfterSeconds = some (orDefault (breakerDelay ctx health key))
    | .rateLimited item => item.key = key ∧
        item.retryAfterSeconds = some (orDefault (limiterDelay ctx health key)) := by
  unfold verdict
  cases isStatusPermitted (SelectableKey.status key) with
  | some reason => rfl
  | none =>
    cases broken : breakerFinding ctx key health with
    | some item => exact breakerFinding_item broken
    | none =>
      cases limited : limiterFinding ctx key health with
      | some item => exact limiterFinding_item limited
      | none => trivial

theorem disabledItem_named {health : KeyHealth} {key : κ} {item : KeyTriageItem κ}
    (found : (verdict ctx health key).disabledItem = some item) : item.key = key := by
  have named := verdict_named ctx health key
  cases result : verdict ctx health key <;> rw [result] at found named <;> cases found
  exact named

theorem circuitBrokenItem_named {health : KeyHealth} {key : κ} {item : KeyTriageItem κ}
    (found : (verdict ctx health key).circuitBrokenItem = some item) :
    item.key = key ∧ item.retryAfterSeconds = some (orDefault (breakerDelay ctx health key)) := by
  have named := verdict_named ctx health key
  cases result : verdict ctx health key <;> rw [result] at found named <;> cases found
  exact named

theorem rateLimitedItem_named {health : KeyHealth} {key : κ} {item : KeyTriageItem κ}
    (found : (verdict ctx health key).rateLimitedItem = some item) :
    item.key = key ∧ item.retryAfterSeconds = some (orDefault (limiterDelay ctx health key)) := by
  have named := verdict_named ctx health key
  cases result : verdict ctx health key <;> rw [result] at found named <;> cases found
  exact named

section

variable (ctx) (provider : Option String) (candidates : List κ) (health : KeyHealth)

/-- The keys of a list of items are those of its gate. -/
theorem keys_filterMap (item : Verdict κ → Option (KeyTriageItem κ)) (g : Gate)
    (named : ∀ key found, item (verdict ctx health key) = some found → found.key = key)
    (kind : ∀ v : Verdict κ, (item v).isSome = decide (v.gate = g)) :
    ((candidates.map fun key => (key, verdict ctx health key)).filterMap (item ·.2)).map (·.key) =
      Partition.part (gate ctx health) candidates g := by
  rw [List.filterMap_map]
  refine (Partition.map_filterMap_named named).trans ?_
  exact List.filter_congr fun key _ => kind (verdict ctx health key)

/-- The keys of the four lists are the candidates of each gate. -/
theorem triage_parts :
    let result := (triageKeysAsync ctx provider candidates health).1
    [result.healthyKeys, result.disabledKeys.map (·.key), result.circuitBrokenKeys.map (·.key),
        result.rateLimitedKeys.map (·.key)] =
      Gate.all.map (Partition.part (gate ctx health) candidates) := by
  simp only [healthyKeys_eq, Gate.all, List.map_cons, List.map_nil, List.cons.injEq, and_true]
  simp only [triageKeysAsync, (triageLoop_eq ctx candidates health).1]
  refine ⟨List.filter_congr fun key _ => ?_, ?_, ?_, ?_⟩
  · rw [gate]
    cases verdict ctx health key <;> rfl
  · exact keys_filterMap ctx candidates health Verdict.disabledItem .disabled
      (fun key item => disabledItem_named) (fun v => by cases v <;> rfl)
  · exact keys_filterMap ctx candidates health Verdict.circuitBrokenItem .circuitBroken
      (fun key item found => (circuitBrokenItem_named found).1) (fun v => by cases v <;> rfl)
  · exact keys_filterMap ctx candidates health Verdict.rateLimitedItem .rateLimited
      (fun key item found => (rateLimitedItem_named found).1) (fun v => by cases v <;> rfl)

theorem mem_circuitBrokenKeys {item : KeyTriageItem κ} :
    item ∈ (triageKeysAsync ctx provider candidates health).1.circuitBrokenKeys ↔
      ∃ key ∈ candidates, (verdict ctx health key).circuitBrokenItem = some item := by
  simp only [triageKeysAsync, (triageLoop_eq ctx candidates health).1, List.filterMap_map,
    List.mem_filterMap, Function.comp_apply]

/-- The delays triage takes the minimum of. -/
def retryDelays : List Nat := candidates.filterMap fun key => (verdict ctx health key).retryDelay

theorem minRetryAfterSeconds_eq :
    (triageKeysAsync ctx provider candidates health).1.minRetryAfterSeconds =
      (retryDelays ctx candidates health).min?.getD defaultRetryAfterSeconds := by
  simp only [triageKeysAsync, (triageLoop_eq ctx candidates health).1, List.filterMap_map,
    retryDelays]
  rfl

theorem mem_retryDelays {delay : Nat} :
    delay ∈ retryDelays ctx candidates health ↔
      ∃ item ∈ (triageKeysAsync ctx provider candidates health).1.circuitBrokenKeys ++
          (triageKeysAsync ctx provider candidates health).1.rateLimitedKeys,
        item.retryAfterSeconds = some delay := by
  simp only [retryDelays, List.mem_filterMap, List.mem_append, mem_circuitBrokenKeys,
    mem_rateLimitedKeys]
  constructor
  · rintro ⟨key, mem, found⟩
    cases result : verdict ctx health key with
    | healthy => simp [result, Verdict.retryDelay] at found
    | disabled item => simp [result, Verdict.retryDelay] at found
    | circuitBroken item =>
      rw [result] at found
      exact ⟨item, Or.inl ⟨key, mem, by rw [result]; rfl⟩, found⟩
    | rateLimited item =>
      rw [result] at found
      exact ⟨item, Or.inr ⟨key, mem, by rw [result]; rfl⟩, found⟩
  · rintro ⟨item, ⟨key, mem, found⟩ | ⟨key, mem, found⟩, delayed⟩
    · refine ⟨key, mem, ?_⟩
      cases result : verdict ctx health key <;> rw [result] at found <;> cases found
      exact delayed
    · refine ⟨key, mem, ?_⟩
      cases result : verdict ctx health key <;> rw [result] at found <;> cases found
      exact delayed

end

/-- What a triage promises of the candidates. -/
structure Triaged (ctx : TriageContext) (candidates : List κ) (health : KeyHealth)
    (result : KeyTriageResult κ) : Prop where
  together : (result.healthyKeys ++ result.disabledKeys.map (·.key) ++
    result.circuitBrokenKeys.map (·.key) ++ result.rateLimitedKeys.map (·.key)).Perm candidates
  disjoint : [result.healthyKeys, result.disabledKeys.map (·.key),
    result.circuitBrokenKeys.map (·.key), result.rateLimitedKeys.map (·.key)].Pairwise List.Disjoint
  ordered : ∀ keys ∈ [result.healthyKeys, result.disabledKeys.map (·.key),
    result.circuitBrokenKeys.map (·.key), result.rateLimitedKeys.map (·.key)],
      keys.Sublist candidates
  healthy_iff : ∀ key ∈ candidates, key ∈ result.healthyKeys ↔
    isStatusPermitted (SelectableKey.status key) = none ∧ breakerPermits ctx health key ∧
      limiterPasses ctx health key
  disabled_iff : ∀ key ∈ candidates, key ∈ result.disabledKeys.map (·.key) ↔
    isStatusPermitted (SelectableKey.status key) ≠ none
  circuitBroken_iff : ∀ key ∈ candidates, key ∈ result.circuitBrokenKeys.map (·.key) ↔
    isStatusPermitted (SelectableKey.status key) = none ∧ ¬breakerPermits ctx health key
  rateLimited_iff : ∀ key ∈ candidates, key ∈ result.rateLimitedKeys.map (·.key) ↔
    isStatusPermitted (SelectableKey.status key) = none ∧ breakerPermits ctx health key ∧
      ¬limiterPasses ctx health key
  circuitBroken_delay : ∀ item ∈ result.circuitBrokenKeys,
    item.retryAfterSeconds = some (orDefault (breakerDelay ctx health item.key))
  rateLimited_delay : ∀ item ∈ result.rateLimitedKeys,
    item.retryAfterSeconds = some (orDefault (limiterDelay ctx health item.key))
  retryAfter : result.circuitBrokenKeys ++ result.rateLimitedKeys ≠ [] →
    IsLeast {delay | ∃ item ∈ result.circuitBrokenKeys ++ result.rateLimitedKeys,
      item.retryAfterSeconds = some delay} result.minRetryAfterSeconds ∧
      1 ≤ result.minRetryAfterSeconds

section

variable (ctx) (provider : Option String) (candidates : List κ) (health : KeyHealth)

theorem circuitBroken_delays :
    ∀ item ∈ (triageKeysAsync ctx provider candidates health).1.circuitBrokenKeys,
      item.retryAfterSeconds = some (orDefault (breakerDelay ctx health item.key)) := by
  intro item mem
  obtain ⟨key, -, found⟩ := (mem_circuitBrokenKeys ctx provider candidates health).mp mem
  obtain ⟨rfl, delayed⟩ := circuitBrokenItem_named found
  exact delayed

theorem rateLimited_delays :
    ∀ item ∈ (triageKeysAsync ctx provider candidates health).1.rateLimitedKeys,
      item.retryAfterSeconds = some (orDefault (limiterDelay ctx health item.key)) := by
  intro item mem
  obtain ⟨key, -, found⟩ := (mem_rateLimitedKeys ctx provider).mp mem
  obtain ⟨rfl, delayed⟩ := rateLimitedItem_named found
  exact delayed

/-- Every blocked key has a delay, of a second at least. -/
theorem blocked_delayed :
    ∀ item ∈ (triageKeysAsync ctx provider candidates health).1.circuitBrokenKeys ++
        (triageKeysAsync ctx provider candidates health).1.rateLimitedKeys,
      ∃ delay, item.retryAfterSeconds = some delay ∧ 1 ≤ delay := by
  intro item mem
  rcases List.mem_append.mp mem with broken | limited
  · exact ⟨_, circuitBroken_delays ctx provider candidates health item broken, orDefault_pos _⟩
  · exact ⟨_, rateLimited_delays ctx provider candidates health item limited, orDefault_pos _⟩

/-- The delay reported is the least of the blocked keys. -/
theorem minRetryAfterSeconds_least
    (blocked : (triageKeysAsync ctx provider candidates health).1.circuitBrokenKeys ++
      (triageKeysAsync ctx provider candidates health).1.rateLimitedKeys ≠ []) :
    IsLeast {delay | ∃ item ∈ (triageKeysAsync ctx provider candidates health).1.circuitBrokenKeys ++
        (triageKeysAsync ctx provider candidates health).1.rateLimitedKeys,
      item.retryAfterSeconds = some delay}
      (triageKeysAsync ctx provider candidates health).1.minRetryAfterSeconds := by
  obtain ⟨item, mem⟩ := List.exists_mem_of_ne_nil _ blocked
  obtain ⟨delay, eq, -⟩ := blocked_delayed ctx provider candidates health item mem
  have some_delay : retryDelays ctx candidates health ≠ [] :=
    List.ne_nil_of_mem ((mem_retryDelays ctx provider candidates health).mpr ⟨item, mem, eq⟩)
  obtain ⟨least, first⟩ := Option.ne_none_iff_exists'.mp
    (mt List.min?_eq_none_iff.mp some_delay)
  obtain ⟨present, le⟩ := List.min?_eq_some_iff.mp first
  rw [minRetryAfterSeconds_eq, first, Option.getD_some]
  refine ⟨(mem_retryDelays ctx provider candidates health).mp present, fun other listed => ?_⟩
  exact le other ((mem_retryDelays ctx provider candidates health).mpr listed)

end

/-- Triage is an exact partition. -/
theorem triageKeysAsync_partitions (ctx : TriageContext) (provider : Option String)
    (candidates : List κ) (health : KeyHealth) :
    Triaged ctx candidates health (triageKeysAsync ctx provider candidates health).1 := by
  have parts := triage_parts ctx provider candidates health
  have keys := parts
  simp only [Gate.all, List.map_cons, List.map_nil, List.cons.injEq, and_true] at keys
  obtain ⟨healthy, disabled, circuitBroken, rateLimited⟩ := keys
  refine
    { together := ?_
      disjoint := parts ▸ Partition.pairwise_disjoint (by decide)
      ordered := fun keys mem => ?_
      healthy_iff := fun key mem => ?_
      disabled_iff := fun key mem => ?_
      circuitBroken_iff := fun key mem => ?_
      rateLimited_iff := fun key mem => ?_
      circuitBroken_delay := circuitBroken_delays ctx provider candidates health
      rateLimited_delay := rateLimited_delays ctx provider candidates health
      retryAfter := fun blocked => ?_ }
  · have all : ∀ key ∈ candidates, gate ctx health key ∈ Gate.all := by
      intro key _
      cases gate ctx health key <;> decide
    have perm : (Gate.all.flatMap (Partition.part (gate ctx health) candidates)).Perm candidates :=
      Partition.perm_parts (by decide) all
    rw [healthy, disabled, circuitBroken, rateLimited]
    simpa [Gate.all, List.append_assoc] using perm
  · rw [parts] at mem
    obtain ⟨gate, -, rfl⟩ := List.mem_map.mp mem
    exact Partition.part_sublist gate
  · rw [healthy, Partition.mem_part, gate_healthy_iff]
    simp [mem]
  · rw [disabled, Partition.mem_part, gate_disabled_iff]
    simp [mem]
  · rw [circuitBroken, Partition.mem_part, gate_circuitBroken_iff]
    simp [mem]
  · rw [rateLimited, Partition.mem_part, gate_rateLimited_iff]
    simp [mem]
  · have least := minRetryAfterSeconds_least ctx provider candidates health blocked
    obtain ⟨item, mem, reported⟩ := least.1
    obtain ⟨delay, eq, positive⟩ := blocked_delayed ctx provider candidates health item mem
    rw [reported] at eq
    exact ⟨least, Option.some.inj eq ▸ positive⟩

end KeyCollective
