import KeyCollective.Lib.IndexedMap
import KeyCollective.Lib.Rounding
import KeyCollective.Selector.Strategies

/-!
# KeySelector

The selector keeps its own map of a pool's keys, triages the ones a request may
use and lets a strategy pick among those found healthy.
-/

namespace KeyCollective

/-- The id a key is stored under. -/
abbrev keyId {κ : Type} [SelectableKey κ] (key : κ) : String := SelectableKey.id key

structure SelectKeyOptions (κ : Type) where
  strategy : Option KeySelectionStrategy := none
  costMicrodollars : Option Int := none
  throwOnExhausted : Option Bool := none
  fallbackToAnyProvider : Option Bool := none
  candidateKeys : Option (List κ) := none

structure KeyExhaustedError where
  message : String
  provider : String
  tenantId : Option String
  totalKeys : Nat
  retryAfterSeconds : Nat
deriving DecidableEq, Repr

structure CapacitySummary where
  provider : Option String
  totalKeys : Nat
  healthyKeys : Nat
  totalRpmLimit : Int
  currentRpm : Nat
  remainingRpm : Int
  utilizationPercent : Int
deriving DecidableEq, Repr

structure KeyMetrics where
  rpm : Nat
  circuitBreakerTripped : Bool
  costAccumulatedMicrodollars : Int
deriving DecidableEq, Repr

namespace KeySelector

/-- The selector's maps, with the breakers and counters it shares with its pool. -/
structure State (κ : Type) [SelectableKey κ] where
  keysMap : IndexedMap (keyId : κ → String)
  roundRobinIndices : RoundRobinIndices
  usageCounts : String → Nat
  health : KeyHealth

def State.fresh {κ : Type} [SelectableKey κ] : State κ :=
  ⟨.empty, .empty, fun _ => 0, ⟨.empty, .empty⟩⟩

variable {κ : Type} [SelectableKey κ]

def addKey (st : State κ) (key : κ) : State κ := { st with keysMap := st.keysMap.set key }

/-- Returns whether the key was present. -/
def removeKey (st : State κ) (id : String) : Bool × State κ :=
  (st.keysMap.has id,
    { st with
      keysMap := st.keysMap.delete id
      usageCounts := Function.update st.usageCounts id 0 })

def setKeys (st : State κ) (keys : List κ) : State κ :=
  { st with keysMap := IndexedMap.empty.setAll keys }

def clearKeys (st : State κ) : State κ :=
  { st with
    keysMap := .empty
    usageCounts := fun _ => 0
    roundRobinIndices := st.roundRobinIndices.evict }

def recordUsage (st : State κ) (id : String) : State κ :=
  { st with usageCounts := Function.update st.usageCounts id (st.usageCounts id + 1) }

/-- Forgets the round-robin pointers and the invocation counts, and keeps the keys. -/
def clearMemoryCache (st : State κ) : State κ :=
  { st with usageCounts := fun _ => 0, roundRobinIndices := st.roundRobinIndices.evict }

variable [Host] (sel : KeySelector)

def getKeys (st : State κ) (provider : Option String) : List κ :=
  if isFalsy provider ∨ provider = some "*" then st.keysMap.values
  else
    let target := normalizeProvider (provider.getD "")
    st.keysMap.values.filter fun key => normalizeProvider (SelectableKey.provider key) = target

omit [Host] in
def triageContext (costMicrodollars now : Int) : TriageContext where
  costMicrodollars
  circuitBreaker := sel.circuitBreaker
  rateLimiter := sel.rateLimiter
  now

def triageKeys (st : State κ) (provider : Option String) (costMicrodollars : Int)
    (candidateKeys : Option (List κ)) (now : Int) : KeyTriageResult κ × State κ :=
  let candidates := candidateKeys.getD (getKeys st provider)
  let (result, health) :=
    triageKeysAsync (sel.triageContext costMicrodollars now) provider candidates st.health
  (result, { st with health })

/-- The strategy's pick. `draw` is what the random strategy draws. -/
def pick (strategy : KeySelectionStrategy) (provider : String) (now : Int) (draw : Nat)
    (healthyKeys : List κ) (nonempty : healthyKeys ≠ []) (st : State κ) : κ × State κ :=
  let ctx : StrategyContext :=
    { provider, rateLimiter := sel.rateLimiter, getUsageCount := st.usageCounts, now }
  match strategy with
  | .leastUsed | .loadBalanced =>
    let (selected, limiter) := selectLeastUsed ctx healthyKeys nonempty st.health.limiter
    (selected, { st with health := { st.health with limiter } })
  | .priority =>
    let (selected, indices) := selectPriority sel ctx healthyKeys nonempty st.roundRobinIndices
    (selected, { st with roundRobinIndices := indices })
  | .random =>
    (healthyKeys.get
      ⟨draw % healthyKeys.length, Nat.mod_lt _ (List.length_pos_of_ne_nil nonempty)⟩, st)
  | .roundRobin | .costOptimal | .lowestLatency | .cascade =>
    let (selected, indices) := selectRoundRobin sel ctx healthyKeys nonempty st.roundRobinIndices
    (selected, { st with roundRobinIndices := indices })

omit [Host] in
def exhaustedMessage (provider : String) (total : Nat) : String :=
  if total = 0 then s!"No API keys configured for provider '{provider}'"
  else s!"All {total} keys for provider '{provider}' are exhausted, rate limited, or circuit broken"

/-- The triage of the requested provider, or of every key when none of the
requested ones is healthy and the call falls back. -/
def triageForSelection (st : State κ) (provider : String) (options : SelectKeyOptions κ)
    (now : Int) : KeyTriageResult κ × State κ :=
  let cost := options.costMicrodollars.getD 0
  let (triage, st) := sel.triageKeys st (some provider) cost options.candidateKeys now
  if triage.healthyKeys.isEmpty ∧ options.fallbackToAnyProvider = some true then
    let (fallbackTriage, st) := sel.triageKeys st (some "*") cost none now
    (if fallbackTriage.healthyKeys.isEmpty then triage else fallbackTriage, st)
  else (triage, st)

def selectKey (st : State κ) (provider : String) (options : SelectKeyOptions κ) (now : Int)
    (draw : Nat) : Except KeyExhaustedError (Option κ) × State κ :=
  let throwOnExhausted := options.throwOnExhausted.getD true
  let strategy := options.strategy.getD sel.defaultStrategy
  let (triage, st) := sel.triageForSelection st provider options now
  match triage.healthyKeys with
  | [] =>
    if throwOnExhausted then
      (.error
        { message := exhaustedMessage provider triage.totalKeys
          provider
          tenantId := sel.tenantId
          totalKeys := triage.totalKeys
          retryAfterSeconds := triage.minRetryAfterSeconds }, st)
    else (.ok none, st)
  | first :: rest =>
    let (selected, st) := sel.pick strategy (SelectableKey.provider first) now draw (first :: rest)
      (List.cons_ne_nil first rest) st
    (.ok (some selected), recordUsage st (keyId selected))

/-- Adds up the limits and the current load of the keys, one key after the other. -/
def capacityLoop (now : Int) : List κ → Int × Nat → RateLimiter.Store →
    (Int × Nat) × RateLimiter.Store
  | [], totals, s => (totals, s)
  | key :: rest, (totalRpmLimit, currentRpm), s =>
    let limit := (SelectableKey.rpmLimit key).getD (defaultRpmLimit : Int)
    match sel.rateLimiter with
    | some r =>
      let (rpm, s) := r.getCurrentRpm s (some (keyId key)) now
      capacityLoop now rest (totalRpmLimit + limit, currentRpm + rpm) s
    | none => capacityLoop now rest (totalRpmLimit + limit, currentRpm) s

omit [Host] in
/-- `Math.min(100, Math.round(current / total * 100))`. The quotient and the product are doubles,
so 29 of 200 are 14. -/
def utilizationPercent (totalRpmLimit : Int) (currentRpm : Nat) : Int :=
  let double := Rounding.nearest 53 (-1074)
  if 0 < totalRpmLimit then min 100 ⌊double (double (currentRpm / totalRpmLimit) * 100) + 1 / 2⌋
  else 0

def getCapacitySummary (st : State κ) (provider : Option String) (now : Int) :
    CapacitySummary × State κ :=
  let keys := getKeys st provider
  let (triage, st) := sel.triageKeys st provider 0 none now
  let ((totalRpmLimit, currentRpm), limiter) := sel.capacityLoop now keys (0, 0) st.health.limiter
  ({ provider
     totalKeys := keys.length
     healthyKeys := triage.healthyKeys.length
     totalRpmLimit
     currentRpm
     remainingRpm := max 0 (totalRpmLimit - currentRpm)
     utilizationPercent := utilizationPercent totalRpmLimit currentRpm },
   { st with health := { st.health with limiter } })

omit [Host] in
def getKeyMetrics (st : State κ) (id : String) (now : Int) : KeyMetrics × State κ :=
  let (rpm, limiter) := match sel.rateLimiter with
    | some r => r.getCurrentRpm st.health.limiter (some id) now
    | none => (0, st.health.limiter)
  let (circuitBreakerTripped, breaker) := match sel.circuitBreaker with
    | some b =>
      let (state, breaker) := b.getState st.health.breaker (some id) now
      (state = .open, breaker)
    | none => (false, st.health.breaker)
  let (costAccumulatedMicrodollars, limiter) := match sel.rateLimiter with
    | some r => r.getAccumulatedCost limiter (some id) now
    | none => (0, limiter)
  ({ rpm, circuitBreakerTripped, costAccumulatedMicrodollars },
    { st with health := { breaker, limiter } })

/-! ## What selection can return -/

/-- Nothing at this instant speaks against the key. -/
def isHealthy (st : State κ) (options : SelectKeyOptions κ) (now : Int) (key : κ) : Bool :=
  (verdict (sel.triageContext (options.costMicrodollars.getD 0) now) st.health key).isHealthy

/-- The keys a call chooses among: the candidates it names or the provider's keys, or
every key of the pool when none of them is healthy and the call falls back. -/
def considered (st : State κ) (provider : String) (options : SelectKeyOptions κ) (now : Int) :
    List κ :=
  let candidates := options.candidateKeys.getD (getKeys st (some provider))
  if (candidates.filter (sel.isHealthy st options now)).isEmpty ∧
      options.fallbackToAnyProvider = some true then
    st.keysMap.values
  else candidates

/-- The healthy ones among them. -/
def offered (st : State κ) (provider : String) (options : SelectKeyOptions κ) (now : Int) :
    List κ :=
  (sel.considered st provider options now).filter (sel.isHealthy st options now)

omit [Host] in
@[simp] theorem addKey_keysMap (st : State κ) (key : κ) :
    (addKey st key).keysMap = st.keysMap.set key := rfl

theorem getKeys_subset (st : State κ) (provider : Option String) :
    getKeys st provider ⊆ st.keysMap.values := by
  unfold getKeys
  split
  · exact List.Subset.refl _
  · exact List.filter_sublist.subset

theorem triageKeys_healthyKeys (st : State κ) (provider : Option String) (cost : Int)
    (candidateKeys : Option (List κ)) (now : Int) :
    (sel.triageKeys st provider cost candidateKeys now).1.healthyKeys =
      (candidateKeys.getD (getKeys st provider)).filter fun key =>
        (verdict (sel.triageContext cost now) st.health key).isHealthy :=
  healthyKeys_eq ..

theorem triageKeys_state (st : State κ) (provider : Option String) (cost : Int)
    (candidateKeys : Option (List κ)) (now : Int) :
    ∃ health, (sel.triageKeys st provider cost candidateKeys now).2 = { st with health } ∧
      SameViews (sel.triageContext cost now) st.health health :=
  ⟨_, rfl, triage_sameViews _ provider _ st.health⟩

theorem triageForSelection_spec (st : State κ) (provider : String) (options : SelectKeyOptions κ)
    (now : Int) :
    (sel.triageForSelection st provider options now).1.healthyKeys =
        sel.offered st provider options now ∧
      ∃ health, (sel.triageForSelection st provider options now).2 = { st with health } ∧
        SameViews (sel.triageContext (options.costMicrodollars.getD 0) now) st.health health := by
  obtain ⟨health, eq, same⟩ := sel.triageKeys_state st (some provider)
    (options.costMicrodollars.getD 0) options.candidateKeys now
  have found := sel.triageKeys_healthyKeys st (some provider)
    (options.costMicrodollars.getD 0) options.candidateKeys now
  simp only [triageForSelection, offered, considered, found, eq]
  unfold isHealthy
  split
  · rename_i falls
    obtain ⟨last, eq', same'⟩ := sel.triageKeys_state { st with health } (some "*")
      (options.costMicrodollars.getD 0) none now
    have found' := sel.triageKeys_healthyKeys { st with health } (some "*")
      (options.costMicrodollars.getD 0) none now
    simp only [verdict_congr _ same, Option.getD_none] at found'
    refine ⟨?_, last, eq', same.trans same'⟩
    split
    · rename_i none
      rw [found, List.isEmpty_iff.mp falls.1, ← List.isEmpty_iff.mp none, found']
      rfl
    · exact found'
  · exact ⟨found, health, rfl, same⟩

theorem pick_mem (strategy : KeySelectionStrategy) (provider : String) (now : Int) (draw : Nat)
    (healthyKeys : List κ) (nonempty : healthyKeys ≠ []) (st : State κ) :
    (sel.pick strategy provider now draw healthyKeys nonempty st).1 ∈ healthyKeys := by
  cases strategy with
  | leastUsed => exact selectLeastUsed_mem ..
  | loadBalanced => exact selectLeastUsed_mem ..
  | priority => exact selectPriority_mem sel _ healthyKeys nonempty _
  | random => exact List.get_mem healthyKeys _
  | roundRobin => exact selectRoundRobin_mem sel _ healthyKeys nonempty _
  | costOptimal => exact selectRoundRobin_mem sel _ healthyKeys nonempty _
  | lowestLatency => exact selectRoundRobin_mem sel _ healthyKeys nonempty _
  | cascade => exact selectRoundRobin_mem sel _ healthyKeys nonempty _

/-- The selection ends in the pick of one of the offered keys, or in none. -/
theorem selectKey_cases (st : State κ) (provider : String) (options : SelectKeyOptions κ)
    (now : Int) (draw : Nat) :
    (sel.offered st provider options now = [] ∧
      ∀ key, (sel.selectKey st provider options now draw).1 ≠ .ok (some key)) ∨
    ∃ nonempty : sel.offered st provider options now ≠ [], ∃ effectiveProvider,
      (sel.selectKey st provider options now draw).1 =
        .ok (some (sel.pick (options.strategy.getD sel.defaultStrategy) effectiveProvider now draw
          (sel.offered st provider options now) nonempty
          (sel.triageForSelection st provider options now).2).1) := by
  obtain ⟨found, -⟩ := sel.triageForSelection_spec st provider options now
  rw [← found]
  simp only [selectKey]
  split
  · rename_i none
    refine Or.inl ⟨none, fun key => ?_⟩
    split <;> simp
  · rename_i first rest some
    refine Or.inr ⟨by simp [some], SelectableKey.provider first, ?_⟩
    simp only [some]

theorem selectKey_offered {st : State κ} {provider : String} {options : SelectKeyOptions κ}
    {now : Int} {draw : Nat} {key : κ}
    (selected : (sel.selectKey st provider options now draw).1 = .ok (some key)) :
    key ∈ sel.offered st provider options now := by
  rcases sel.selectKey_cases st provider options now draw with ⟨-, none⟩ | ⟨nonempty, p, eq⟩
  · exact absurd selected (none key)
  · rw [eq] at selected
    obtain rfl : _ = key := Option.some.inj (Except.ok.inj selected)
    exact sel.pick_mem ..

/-- A call that names no candidates of its own selects a registered key. -/
theorem selectKey_registered {st : State κ} {provider : String} {options : SelectKeyOptions κ}
    {now : Int} {draw : Nat} {key : κ} (pooled : options.candidateKeys = none)
    (selected : (sel.selectKey st provider options now draw).1 = .ok (some key)) :
    key ∈ st.keysMap.values := by
  have mem := (List.mem_filter.mp (sel.selectKey_offered selected)).1
  simp only [considered] at mem
  split at mem
  · exact mem
  · rw [pooled, Option.getD_none] at mem
    exact getKeys_subset st (some provider) mem

/-- The random strategy can draw every offered key. -/
theorem selectKey_draws {st : State κ} {provider : String} {o : SelectKeyOptions κ} {now : Int}
    {key : κ} (random : o.strategy = some .random) (mem : key ∈ sel.offered st provider o now) :
    ∃ draw, (sel.selectKey st provider o now draw).1 = .ok (some key) := by
  obtain ⟨draw, eq⟩ := List.get_of_mem mem
  refine ⟨draw, ?_⟩
  rcases sel.selectKey_cases st provider o now draw with ⟨none, -⟩ | ⟨nonempty, p, found⟩
  · rw [none] at mem
    exact absurd mem List.not_mem_nil
  · rw [found, ← eq]
    simp only [random, Option.getD_some, pick, Nat.mod_eq_of_lt draw.isLt]

/-- What `selectKey` does to the keys: nothing. -/
theorem selectKey_keysMap (st : State κ) (provider : String) (options : SelectKeyOptions κ)
    (now : Int) (draw : Nat) :
    (sel.selectKey st provider options now draw).2.keysMap = st.keysMap := by
  obtain ⟨-, health, eq, -⟩ := sel.triageForSelection_spec st provider options now
  simp only [selectKey, eq]
  split
  · split <;> rfl
  · simp only [recordUsage, pick]
    split <;> rfl

/-- A selection only reads the counters. -/
theorem selectKey_keeps {P : RateLimiter.Store → Prop} {now : Int}
    (kept : KeptByReads sel.rateLimiter now P) (st : State κ) (provider : String)
    (options : SelectKeyOptions κ) (draw : Nat) (before : P st.health.limiter) :
    P (sel.selectKey st provider options now draw).2.health.limiter := by
  have triaged : ∀ (st : State κ) (provider : Option String) (cost : Int)
      (candidateKeys : Option (List κ)), P st.health.limiter →
      P (sel.triageKeys st provider cost candidateKeys now).2.health.limiter :=
    fun st provider cost candidateKeys before => triage_keeps kept provider _ st.health before
  have chosen : P (sel.triageForSelection st provider options now).2.health.limiter := by
    simp only [triageForSelection]
    split
    · exact triaged _ _ _ _ (triaged _ _ _ _ before)
    · exact triaged _ _ _ _ before
  simp only [selectKey]
  split
  · split
    · exact chosen
    · exact chosen
  · simp only [recordUsage, pick]
    split
    · exact selectLeastUsed_keeps _ kept _ _ _ chosen
    · exact selectLeastUsed_keeps _ kept _ _ _ chosen
    all_goals exact chosen

end KeySelector

end KeyCollective
