import KeyCollective.Breaker.Eviction
import KeyCollective.Selector.RoundRobin

/-!
# Synchronous selection

A second implementation of triage and selection, which reads what is in memory and writes
nothing through. Once everything it reads has been loaded it finds what the asynchronous
one finds, though it says less about the keys it refuses.
-/

namespace KeyCollective

section Selection

variable [Host] {κ : Type} [SelectableKey κ]

section Triage

variable (ctx : TriageContext)

def ownCircuitSync (key : κ) : Option (KeyTriageItem κ) :=
  match SelectableKey.circuitOpenUntil key with
  | some openUntilMs =>
    if ctx.now < openUntilMs then
      some (brokenItem key (max 1 (ceilSeconds (openUntilMs - ctx.now))) none .open)
    else none
  | none => none

/-- Seconds of cooldown a record in memory has left; one when it has none left. -/
def cooldownRetry (b : CircuitBreaker) (data : Option CircuitBreakerData) (now : Int) : Nat :=
  match data.bind CircuitBreakerData.openedAt with
  | some openedAt => ceilSeconds (openedAt + b.cooldownMs - now)
  | none => 0

def breakerCheckSync (key : κ) (health : KeyHealth) : Option (KeyTriageItem κ) × KeyHealth :=
  let id := some (SelectableKey.id key)
  match ctx.circuitBreaker with
  | some b =>
    let (cbAllowed, s) := b.canExecuteSync health.breaker id ctx.now
    let (cbState, s) := b.getStateSync s id ctx.now
    if cbAllowed then (none, { health with breaker := s })
    else
      let (cbData, s) := b.getDataSync s id ctx.now
      (some (brokenItem key (cooldownRetry b cbData ctx.now) none cbState),
        { health with breaker := s })
  | none => (ownCircuitSync ctx key, health)

/-- The item of a refused key says neither why nor for how long. -/
def limitedItemSync (key : κ) : KeyTriageItem κ where
  key
  reason := .rateLimitExceeded
  retryAfterSeconds := some defaultRetryAfterSeconds

def limiterCheckSync (key : κ) (health : KeyHealth) : Option (KeyTriageItem κ) × KeyHealth :=
  match ctx.rateLimiter with
  | some r =>
    let (rlAllowed, s) := r.checkLimitSync health.limiter (some (SelectableKey.id key))
      ctx.costMicrodollars ctx.now
    (if rlAllowed then none else some (limitedItemSync key), { health with limiter := s })
  | none => (none, health)

def triageKeySync (key : κ) (health : KeyHealth) : Verdict κ × KeyHealth :=
  match isStatusPermitted (SelectableKey.status key) with
  | some reason => (.disabled { key, reason }, health)
  | none =>
    let (broken, health) := breakerCheckSync ctx key health
    match broken with
    | some item => (.circuitBroken item, health)
    | none =>
      let (limited, health) := limiterCheckSync ctx key health
      match limited with
      | some item => (.rateLimited item, health)
      | none => (.healthy, health)

def triageLoopSync : List κ → KeyHealth → List (κ × Verdict κ) × KeyHealth
  | [], health => ([], health)
  | key :: rest, health =>
    let (verdict, health) := triageKeySync ctx key health
    let (verdicts, health) := triageLoopSync rest health
    ((key, verdict) :: verdicts, health)

def triageKeysSync (provider : Option String) (candidates : List κ) (health : KeyHealth) :
    KeyTriageResult κ × KeyHealth :=
  let (verdicts, health) := triageLoopSync ctx candidates health
  ({ provider
     totalKeys := candidates.length
     healthyKeys := (verdicts.filter (·.2.isHealthy)).map Prod.fst
     unhealthyKeys := verdicts.filterMap (·.2.unhealthyItem)
     rateLimitedKeys := verdicts.filterMap (·.2.rateLimitedItem)
     circuitBrokenKeys := verdicts.filterMap (·.2.circuitBrokenItem)
     disabledKeys := verdicts.filterMap (·.2.disabledItem)
     minRetryAfterSeconds :=
       (verdicts.filterMap (·.2.retryDelay)).min?.getD defaultRetryAfterSeconds },
   health)

/-! ## What is read from memory -/

/-- What triage reads of a key is in memory. -/
structure Loaded (health : KeyHealth) (id : String) : Prop where
  breaker : ∀ b, ctx.circuitBreaker = some b → (health.breaker.cache id).isSome
  limiter : ∀ r, ctx.rateLimiter = some r → (health.limiter.cache id).isSome

/-- Reads in memory show to no reader and unload nothing. -/
structure Reread (health later : KeyHealth) : Prop where
  views : SameViews ctx health later
  loaded : ∀ id, Loaded ctx health id → Loaded ctx later id

omit [Host] in
theorem Reread.refl (health : KeyHealth) : Reread ctx health health :=
  ⟨.refl ctx health, fun _ loaded => loaded⟩

variable {ctx}

omit [Host] in
theorem Reread.trans {first second third : KeyHealth} (h : Reread ctx first second)
    (h' : Reread ctx second third) : Reread ctx first third :=
  ⟨h.views.trans h'.views, fun id loaded => h'.loaded id (h.loaded id loaded)⟩

omit [Host] in
theorem Reread.all {health later : KeyHealth} (h : Reread ctx health later) {keys : List κ}
    (loaded : ∀ key ∈ keys, Loaded ctx health (SelectableKey.id key)) :
    ∀ key ∈ keys, Loaded ctx later (SelectableKey.id key) :=
  fun key mem => h.loaded _ (loaded key mem)

omit [Host] in
theorem Loaded.setBreaker {health : KeyHealth} {id : String} (loaded : Loaded ctx health id)
    (other : String) (data : CircuitBreakerData) :
    Loaded ctx { health with breaker := health.breaker.setCache other data } id :=
  ⟨fun b hb => CachedStore.isSome_setCache (loaded.breaker b hb) other data, loaded.limiter⟩

omit [Host] in
theorem Loaded.setLimiter {health : KeyHealth} {id : String} (loaded : Loaded ctx health id)
    (other : String) (data : RateLimiterData) :
    Loaded ctx { health with limiter := health.limiter.setCache other data } id :=
  ⟨loaded.breaker, fun r hr => CachedStore.isSome_setCache (loaded.limiter r hr) other data⟩

omit [Host] in
/-- On a loaded breaker the synchronous read gives what a reader sees, and caches it. -/
theorem getDataSync_loaded (b : CircuitBreaker) {s : CircuitBreaker.Store} {id : String}
    (loaded : (s.cache id).isSome) (now : Int) :
    b.getDataSync s (some id) now = (some (b.view s id now), s.setCache id (b.view s id now)) := by
  obtain ⟨cached, eq⟩ := Option.isSome_iff_exists.mp loaded
  simp only [CircuitBreaker.getDataSync, CircuitBreaker.resolveKeyId_some, CircuitBreaker.view,
    CircuitBreaker.load, CachedStore.load, eq, Option.getD_some]

omit [Host] in
@[simp] theorem view_setCache_view (b : CircuitBreaker) (s : CircuitBreaker.Store)
    (id other : String) (now : Int) :
    b.view (s.setCache id (b.view s id now)) other now = b.view s other now :=
  CachedStore.Aging.seen_setCache_seen (A := b.cooling) id other

omit [Host] in
/-- Reading again changes nothing more. -/
theorem getDataSync_again (b : CircuitBreaker) (s : CircuitBreaker.Store) (id : String)
    (now : Int) :
    b.getDataSync (s.setCache id (b.view s id now)) (some id) now =
      (some (b.view s id now), s.setCache id (b.view s id now)) := by
  rw [getDataSync_loaded b (by simp [CachedStore.setCache]), view_setCache_view]
  simp [CachedStore.setCache]

variable (ctx)

/-- What the breaker says of a key in the state a reader sees. -/
def breakerFindingSync (key : κ) (health : KeyHealth) : Option (KeyTriageItem κ) :=
  match ctx.circuitBreaker with
  | some b =>
    let data := b.view health.breaker (SelectableKey.id key) ctx.now
    if data.permits then none
    else some (brokenItem key (cooldownRetry b (some data) ctx.now) none data.state)
  | none => ownCircuitSync ctx key

/-- What the limiter says of a key on the counters a reader sees. -/
def limiterFindingSync (key : κ) (health : KeyHealth) : Option (KeyTriageItem κ) :=
  match ctx.rateLimiter with
  | some r =>
    let result := r.evaluate (r.view health.limiter (SelectableKey.id key) ctx.now) ctx.now
      ctx.costMicrodollars
    if result.allowed then none else some (limitedItemSync key)
  | none => none

def verdictSync (health : KeyHealth) (key : κ) : Verdict κ :=
  match isStatusPermitted (SelectableKey.status key) with
  | some reason => .disabled { key, reason }
  | none =>
    match breakerFindingSync ctx key health with
    | some item => .circuitBroken item
    | none =>
      match limiterFindingSync ctx key health with
      | some item => .rateLimited item
      | none => .healthy

omit [Host] in
theorem breakerCheckSync_eq {key : κ} {health : KeyHealth}
    (loaded : Loaded ctx health (SelectableKey.id key)) :
    (breakerCheckSync ctx key health).1 = breakerFindingSync ctx key health ∧
      Reread ctx health (breakerCheckSync ctx key health).2 := by
  cases hb : ctx.circuitBreaker with
  | none => simp only [breakerCheckSync, breakerFindingSync, hb, Reread.refl, and_self]
  | some b =>
    have first := getDataSync_loaded b (loaded.breaker b hb) ctx.now
    have again := getDataSync_again b health.breaker (SelectableKey.id key) ctx.now
    have reread : Reread ctx health { health with
        breaker := (health.breaker.setCache (SelectableKey.id key)
          (b.view health.breaker (SelectableKey.id key) ctx.now)) } := by
      refine ⟨⟨fun b' hb' id => ?_, fun _ _ _ => rfl⟩, fun id h => h.setBreaker _ _⟩
      obtain rfl : b = b' := Option.some.inj (hb.symm.trans hb')
      exact view_setCache_view b health.breaker _ id ctx.now
    simp only [breakerCheckSync, breakerFindingSync, hb, CircuitBreaker.canExecuteSync,
      CircuitBreaker.getStateSync, first, again, Option.all_some, Option.map_some, Option.getD_some]
    split
    · exact ⟨rfl, reread⟩
    · exact ⟨rfl, reread⟩

omit [Host] in
theorem limiterCheckSync_eq {key : κ} {health : KeyHealth}
    (loaded : Loaded ctx health (SelectableKey.id key)) :
    (limiterCheckSync ctx key health).1 = limiterFindingSync ctx key health ∧
      Reread ctx health (limiterCheckSync ctx key health).2 := by
  cases hr : ctx.rateLimiter with
  | none => simp only [limiterCheckSync, limiterFindingSync, hr, Reread.refl, and_self]
  | some r =>
    have checked := r.checkLimitSync_loaded health.limiter (some (SelectableKey.id key))
      ctx.costMicrodollars ctx.now (loaded.limiter r hr)
    simp only [limiterCheckSync, limiterFindingSync, hr, checked, RateLimiter.checkLimit,
      RateLimiter.checkLimitDetailed, RateLimiter.getData_fst, RateLimiter.resolveKeyId_some]
    refine ⟨trivial, ⟨⟨fun _ _ _ => rfl, fun r' hr' id => ?_⟩, fun id h => h.setLimiter _ _⟩⟩
    obtain rfl : r = r' := Option.some.inj (hr.symm.trans hr')
    exact r.view_getData health.limiter _ id ctx.now

omit [Host] in
theorem breakerFindingSync_congr {health later : KeyHealth} (same : SameViews ctx health later)
    (key : κ) : breakerFindingSync ctx key later = breakerFindingSync ctx key health := by
  cases hb : ctx.circuitBreaker with
  | none => simp only [breakerFindingSync, hb]
  | some b => simp only [breakerFindingSync, hb, same.breaker b hb]

omit [Host] in
theorem limiterFindingSync_congr {health later : KeyHealth} (same : SameViews ctx health later)
    (key : κ) : limiterFindingSync ctx key later = limiterFindingSync ctx key health := by
  cases hr : ctx.rateLimiter with
  | none => simp only [limiterFindingSync, hr]
  | some r => simp only [limiterFindingSync, hr, same.limiter r hr]

theorem verdictSync_congr {health later : KeyHealth} (same : SameViews ctx health later)
    (key : κ) : verdictSync ctx later key = verdictSync ctx health key := by
  rw [verdictSync, verdictSync, breakerFindingSync_congr ctx same,
    limiterFindingSync_congr ctx same]

theorem triageKeySync_eq {key : κ} {health : KeyHealth}
    (loaded : Loaded ctx health (SelectableKey.id key)) :
    (triageKeySync ctx key health).1 = verdictSync ctx health key ∧
      Reread ctx health (triageKeySync ctx key health).2 := by
  unfold triageKeySync verdictSync
  cases isStatusPermitted (SelectableKey.status key) with
  | some reason => exact ⟨rfl, .refl ctx health⟩
  | none =>
    obtain ⟨found, seen⟩ := breakerCheckSync_eq ctx loaded
    simp only [found]
    cases breakerFindingSync ctx key health with
    | some item => exact ⟨rfl, seen⟩
    | none =>
      obtain ⟨found', seen'⟩ := limiterCheckSync_eq ctx (seen.loaded _ loaded)
      rw [limiterFindingSync_congr ctx seen.views] at found'
      simp only [found']
      cases limiterFindingSync ctx key health <;> exact ⟨rfl, seen.trans seen'⟩

/-- The loop finds of every loaded candidate what the state it started in says of it. -/
theorem triageLoopSync_eq {candidates : List κ} {health : KeyHealth}
    (loaded : ∀ key ∈ candidates, Loaded ctx health (SelectableKey.id key)) :
    (triageLoopSync ctx candidates health).1 =
        candidates.map (fun key => (key, verdictSync ctx health key)) ∧
      Reread ctx health (triageLoopSync ctx candidates health).2 := by
  induction candidates generalizing health with
  | nil => exact ⟨rfl, .refl ctx health⟩
  | cons key rest ih =>
    obtain ⟨found, seen⟩ := triageKeySync_eq ctx (loaded key List.mem_cons_self)
    obtain ⟨founds, seens⟩ := ih (seen.all fun other mem =>
      loaded other (List.mem_cons_of_mem key mem))
    refine ⟨?_, seen.trans seens⟩
    simp only [triageLoopSync, found, founds, List.map_cons, verdictSync_congr ctx seen.views]

/-! ## Agreement -/

/-- Both put the key into the same list. -/
structure Verdict.Agrees (sync async : Verdict κ) : Prop where
  healthy : sync.isHealthy = async.isHealthy
  disabled : sync.disabledItem.map KeyTriageItem.key = async.disabledItem.map KeyTriageItem.key
  circuitBroken :
    sync.circuitBrokenItem.map KeyTriageItem.key = async.circuitBrokenItem.map KeyTriageItem.key
  rateLimited :
    sync.rateLimitedItem.map KeyTriageItem.key = async.rateLimitedItem.map KeyTriageItem.key

omit [Host] in
theorem ownCircuitSync_key (key : κ) :
    (ownCircuitSync ctx key).map KeyTriageItem.key = (ownCircuit ctx key).map KeyTriageItem.key := by
  unfold ownCircuitSync ownCircuit
  cases SelectableKey.circuitOpenUntil key with
  | none => rfl
  | some openUntilMs =>
    simp only
    split <;> rfl

omit [Host] in
theorem breakerFindingSync_key (key : κ) (health : KeyHealth) :
    (breakerFindingSync ctx key health).map KeyTriageItem.key =
      (breakerFinding ctx key health).map KeyTriageItem.key := by
  unfold breakerFindingSync breakerFinding
  cases ctx.circuitBreaker with
  | none => exact ownCircuitSync_key ctx key
  | some b =>
    simp only
    split <;> rfl

omit [Host] in
theorem limiterFindingSync_key (key : κ) (health : KeyHealth) :
    (limiterFindingSync ctx key health).map KeyTriageItem.key =
      (limiterFinding ctx key health).map KeyTriageItem.key := by
  unfold limiterFindingSync limiterFinding
  cases ctx.rateLimiter with
  | none => rfl
  | some r =>
    simp only
    split <;> rfl

theorem verdictSync_agrees (health : KeyHealth) (key : κ) :
    (verdictSync ctx health key).Agrees (verdict ctx health key) := by
  have broken := breakerFindingSync_key ctx key health
  have limited := limiterFindingSync_key ctx key health
  unfold verdictSync verdict
  cases isStatusPermitted (SelectableKey.status key) with
  | some reason => exact ⟨rfl, rfl, rfl, rfl⟩
  | none =>
    simp only
    cases sync : breakerFindingSync ctx key health with
    | some item =>
      obtain ⟨other, eq, same⟩ := Option.map_eq_some_iff.mp (broken.symm.trans (by rw [sync]; rfl))
      rw [eq]
      exact ⟨rfl, rfl, congrArg some same.symm, rfl⟩
    | none =>
      rw [sync] at broken
      rw [Option.map_eq_none_iff.mp broken.symm]
      simp only
      cases sync' : limiterFindingSync ctx key health with
      | some item =>
        obtain ⟨other, eq, same⟩ :=
          Option.map_eq_some_iff.mp (limited.symm.trans (by rw [sync']; rfl))
        rw [eq]
        exact ⟨rfl, rfl, rfl, congrArg some same.symm⟩
      | none =>
        rw [sync'] at limited
        rw [Option.map_eq_none_iff.mp limited.symm]
        exact ⟨rfl, rfl, rfl, rfl⟩

/-- The four lists of ids. -/
structure KeyTriageResult.Agrees (sync async : KeyTriageResult κ) : Prop where
  healthy : sync.healthyKeys.map keyId = async.healthyKeys.map keyId
  disabled : sync.disabledKeys.map (keyId ·.key) = async.disabledKeys.map (keyId ·.key)
  circuitBroken : sync.circuitBrokenKeys.map (keyId ·.key) = async.circuitBrokenKeys.map (keyId ·.key)
  rateLimited : sync.rateLimitedKeys.map (keyId ·.key) = async.rateLimitedKeys.map (keyId ·.key)

omit [Host] in
/-- A list of ids is read off the verdicts. -/
theorem map_filterMap_verdicts (candidates : List κ) (found : κ → Verdict κ)
    (item : Verdict κ → Option (KeyTriageItem κ)) :
    ((candidates.map fun key => (key, found key)).filterMap (item ·.2)).map (keyId ·.key) =
      candidates.filterMap fun key => ((item (found key)).map KeyTriageItem.key).map keyId := by
  rw [List.filterMap_map, List.map_filterMap]
  apply List.filterMap_congr
  intro key _
  simp [Function.comp_def]

variable {ctx}

theorem triageKeysSync_agrees (provider : Option String) {candidates : List κ}
    {health : KeyHealth}
    (loaded : ∀ key ∈ candidates, Loaded ctx health (SelectableKey.id key)) :
    (triageKeysSync ctx provider candidates health).1.healthyKeys =
        (triageKeysAsync ctx provider candidates health).1.healthyKeys ∧
      (triageKeysSync ctx provider candidates health).1.Agrees
        (triageKeysAsync ctx provider candidates health).1 := by
  have sync := (triageLoopSync_eq ctx loaded).1
  have async := (triageLoop_eq ctx candidates health).1
  have agrees := verdictSync_agrees ctx health (κ := κ)
  have healthy : (triageKeysSync ctx provider candidates health).1.healthyKeys =
      (triageKeysAsync ctx provider candidates health).1.healthyKeys := by
    simp only [triageKeysSync, triageKeysAsync, sync, async, List.filter_map, List.map_map]
    congr 1
    apply List.filter_congr
    intro key _
    exact (agrees key).healthy
  refine ⟨healthy, congrArg _ healthy, ?_, ?_, ?_⟩
  · simp only [triageKeysSync, triageKeysAsync, sync, async, map_filterMap_verdicts,
      (agrees _).disabled]
  · simp only [triageKeysSync, triageKeysAsync, sync, async, map_filterMap_verdicts,
      (agrees _).circuitBroken]
  · simp only [triageKeysSync, triageKeysAsync, sync, async, map_filterMap_verdicts,
      (agrees _).rateLimited]

theorem triageKeysSync_reread (provider : Option String) {candidates : List κ}
    {health : KeyHealth}
    (loaded : ∀ key ∈ candidates, Loaded ctx health (SelectableKey.id key)) :
    Reread ctx health (triageKeysSync ctx provider candidates health).2 :=
  (triageLoopSync_eq ctx loaded).2

end Triage

/-! ## Strategies -/

namespace KeySelector

def getRoundRobinIndexSync (indices : RoundRobinIndices) (provider : String) : Nat :=
  (indices.cache (normalizeProvider provider)).getD 0

def setRoundRobinIndexSync (indices : RoundRobinIndices) (provider : String) (newIndex : Nat) :
    RoundRobinIndices :=
  indices.setCache (normalizeProvider provider) newIndex

end KeySelector

section Strategies

variable (ctx : StrategyContext)

def selectRoundRobinSync (healthyKeys : List κ) (nonempty : healthyKeys ≠ [])
    (indices : RoundRobinIndices) : κ × RoundRobinIndices :=
  let currentIndex := KeySelector.getRoundRobinIndexSync indices ctx.provider
  let selected := healthyKeys.get
    ⟨currentIndex % healthyKeys.length, Nat.mod_lt _ (List.length_pos_of_ne_nil nonempty)⟩
  let nextIndex := (currentIndex + 1) % 1000000
  (selected, KeySelector.setRoundRobinIndexSync indices ctx.provider nextIndex)

/-- The load of a key: every request that is kept of it, or its selections when there is no
limiter. -/
def keyLoadSync (key : κ) (s : RateLimiter.Store) : Nat × RateLimiter.Store :=
  match ctx.rateLimiter with
  | some r =>
    let (rlData, s) := r.getDataSync s (some (SelectableKey.id key)) ctx.now
    match rlData with
    | some rlData => ((rlData.entries.map (·.count)).sum, s)
    | none => (0, s)
  | none => (ctx.getUsageCount (SelectableKey.id key), s)

def leastUsedLoopSync : List κ → κ → Option Nat → RateLimiter.Store → κ × RateLimiter.Store
  | [], bestKey, _, s => (bestKey, s)
  | key :: rest, bestKey, minLoad, s =>
    let (load, s) := keyLoadSync ctx key s
    if minLoad.all (load < ·) then leastUsedLoopSync rest key (some load) s
    else if minLoad = some load ∧
        ctx.getUsageCount (SelectableKey.id key) < ctx.getUsageCount (SelectableKey.id bestKey) then
      leastUsedLoopSync rest key minLoad s
    else leastUsedLoopSync rest bestKey minLoad s

def selectLeastUsedSync (healthyKeys : List κ) (nonempty : healthyKeys ≠ [])
    (s : RateLimiter.Store) : κ × RateLimiter.Store :=
  leastUsedLoopSync ctx healthyKeys (healthyKeys.head nonempty) none s

def selectPrioritySync (healthyKeys : List κ) (nonempty : healthyKeys ≠ [])
    (indices : RoundRobinIndices) : κ × RoundRobinIndices :=
  match topTier healthyKeys, topTier_ne_nil nonempty with
  | [only], _ => (only, indices)
  | tier, nonempty => selectRoundRobinSync ctx tier nonempty indices

end Strategies

namespace KeySelector

variable (sel : KeySelector)

def triageKeysSync (st : State κ) (provider : Option String) (costMicrodollars : Int)
    (candidateKeys : Option (List κ)) (now : Int) : KeyTriageResult κ × State κ :=
  let candidates := candidateKeys.getD (getKeys st provider)
  let (result, health) :=
    KeyCollective.triageKeysSync (sel.triageContext costMicrodollars now) provider candidates
      st.health
  (result, { st with health })

omit [Host] [SelectableKey κ] in
theorem draw_lt {healthyKeys : List κ} (draw : Nat) (nonempty : healthyKeys ≠ []) :
    draw % healthyKeys.length < healthyKeys.length :=
  Nat.mod_lt _ (List.length_pos_of_ne_nil nonempty)

def pickSync (strategy : KeySelectionStrategy) (provider : String) (now : Int) (draw : Nat)
    (healthyKeys : List κ) (nonempty : healthyKeys ≠ []) (st : State κ) : κ × State κ :=
  let ctx : StrategyContext :=
    { provider, rateLimiter := sel.rateLimiter, getUsageCount := st.usageCounts, now }
  match strategy with
  | .leastUsed | .loadBalanced =>
    let (selected, limiter) := selectLeastUsedSync ctx healthyKeys nonempty st.health.limiter
    (selected, { st with health := { st.health with limiter } })
  | .priority =>
    let (selected, indices) := selectPrioritySync ctx healthyKeys nonempty st.roundRobinIndices
    (selected, { st with roundRobinIndices := indices })
  | .random =>
    (healthyKeys.get ⟨draw % healthyKeys.length, draw_lt draw nonempty⟩, st)
  | .roundRobin | .costOptimal | .lowestLatency | .cascade =>
    let (selected, indices) := selectRoundRobinSync ctx healthyKeys nonempty st.roundRobinIndices
    (selected, { st with roundRobinIndices := indices })

def triageForSelectionSync (st : State κ) (provider : String) (options : SelectKeyOptions κ)
    (now : Int) : KeyTriageResult κ × State κ :=
  let cost := options.costMicrodollars.getD 0
  let (triage, st) := sel.triageKeysSync st (some provider) cost options.candidateKeys now
  if triage.healthyKeys.isEmpty ∧ options.fallbackToAnyProvider = some true then
    let (fallbackTriage, st) := sel.triageKeysSync st (some "*") cost none now
    (if fallbackTriage.healthyKeys.isEmpty then triage else fallbackTriage, st)
  else (triage, st)

def selectKeySync (st : State κ) (provider : String) (options : SelectKeyOptions κ) (now : Int)
    (draw : Nat) : Except KeyExhaustedError (Option κ) × State κ :=
  let throwOnExhausted := options.throwOnExhausted.getD true
  let strategy := options.strategy.getD sel.defaultStrategy
  let (triage, st) := sel.triageForSelectionSync st provider options now
  match triage.healthyKeys with
  | [] =>
    if throwOnExhausted then
      (.error
        { message := exhaustedMessage provider triage.totalKeys
          provider
          tenantId := sel.tenantId
          totalKeys := triage.totalKeys
          retryAfterSeconds := triage.minRetryAfterSeconds }, st)
    else (.ok none, st)
  | first :: rest =>
    let (selected, st) := sel.pickSync strategy (SelectableKey.provider first) now draw
      (first :: rest) (List.cons_ne_nil first rest) st
    (.ok (some selected), recordUsage st (keyId selected))

/-- The breaker, the counters and the pointer of a key are in memory. -/
structure InMemory (st : State κ) (key : κ) : Prop where
  breaker : ∀ b, sel.circuitBreaker = some b → (st.health.breaker.cache (keyId key)).isSome
  limiter : ∀ r, sel.rateLimiter = some r → (st.health.limiter.cache (keyId key)).isSome
  pointer : sel.storage = true →
    (st.roundRobinIndices.cache (normalizeProvider (SelectableKey.provider key))).isSome

variable {sel} {st : State κ}

theorem InMemory.loaded {key : κ} (inMemory : sel.InMemory st key) (cost now : Int) :
    Loaded (sel.triageContext cost now) st.health (keyId key) :=
  ⟨inMemory.breaker, inMemory.limiter⟩

/-- The healthy keys of a synchronous triage of keys in memory. -/
theorem triageKeysSync_healthyKeys (st : State κ) (provider : Option String) (cost : Int)
    (candidateKeys : Option (List κ)) (now : Int)
    (loaded : ∀ key ∈ candidateKeys.getD (getKeys st provider),
      Loaded (sel.triageContext cost now) st.health (keyId key)) :
    (sel.triageKeysSync st provider cost candidateKeys now).1.healthyKeys =
        (candidateKeys.getD (getKeys st provider)).filter (fun key =>
          (verdict (sel.triageContext cost now) st.health key).isHealthy) ∧
      ∃ health, (sel.triageKeysSync st provider cost candidateKeys now).2 = { st with health } ∧
        Reread (sel.triageContext cost now) st.health health :=
  ⟨(triageKeysSync_agrees provider loaded).1.trans (healthyKeys_eq ..), _, rfl,
    triageKeysSync_reread provider loaded⟩

theorem triageForSelectionSync_spec (provider : String) (options : SelectKeyOptions κ) (now : Int)
    (inMemory : ∀ key ∈ options.candidateKeys.getD [] ++ st.keysMap.values,
      sel.InMemory st key) :
    (sel.triageForSelectionSync st provider options now).1.healthyKeys =
        sel.offered st provider options now ∧
      ∃ health, (sel.triageForSelectionSync st provider options now).2 = { st with health } := by
  have pooled : ∀ key ∈ st.keysMap.values,
      Loaded (sel.triageContext (options.costMicrodollars.getD 0) now) st.health (keyId key) :=
    fun key mem => (inMemory key (List.mem_append_right _ mem)).loaded _ now
  have candidates : ∀ key ∈ options.candidateKeys.getD (getKeys st (some provider)),
      Loaded (sel.triageContext (options.costMicrodollars.getD 0) now) st.health (keyId key) := by
    intro key mem
    cases named : options.candidateKeys with
    | none =>
      rw [named, Option.getD_none] at mem
      exact pooled key (getKeys_subset st (some provider) mem)
    | some keys =>
      rw [named, Option.getD_some] at mem
      rw [named, Option.getD_some] at inMemory
      exact (inMemory key (List.mem_append_left _ mem)).loaded _ now
  obtain ⟨found, health, eq, reread⟩ := triageKeysSync_healthyKeys st (some provider)
    (options.costMicrodollars.getD 0) options.candidateKeys now candidates
  simp only [triageForSelectionSync, offered, considered, found, eq]
  unfold isHealthy
  split
  · rename_i falls
    obtain ⟨found', last, eq', -⟩ := triageKeysSync_healthyKeys { st with health }
      (some "*") (options.costMicrodollars.getD 0) none now (reread.all pooled)
    simp only [verdict_congr _ reread.views, Option.getD_none] at found'
    refine ⟨?_, last, eq'⟩
    split
    · rename_i none
      rw [found, List.isEmpty_iff.mp falls.1, ← List.isEmpty_iff.mp none, found']
      rfl
    · exact found'
  · exact ⟨found, health, rfl⟩

omit [SelectableKey κ] in
/-- With the pointer in memory, a turn is the same without storage. -/
theorem selectRoundRobinSync_agrees (sel : KeySelector) (ctx : StrategyContext) {keys : List κ} (nonempty : keys ≠ [])
    {indices : RoundRobinIndices}
    (cached : sel.storage = true → (indices.cache (normalizeProvider ctx.provider)).isSome) :
    (selectRoundRobinSync ctx keys nonempty indices).1 =
        (selectRoundRobin sel ctx keys nonempty indices).1 ∧
      (selectRoundRobinSync ctx keys nonempty indices).2.cache =
        (selectRoundRobin sel ctx keys nonempty indices).2.cache := by
  have loaded : sel.getOrLoadRoundRobinIndex indices ctx.provider =
      (getRoundRobinIndexSync indices ctx.provider, indices) := by
    simp only [getOrLoadRoundRobinIndex, getRoundRobinIndexSync]
    cases found : indices.cache (normalizeProvider ctx.provider) with
    | some index => rfl
    | none =>
      have memory : sel.storage ≠ true := fun storage => by
        have present := cached storage
        rw [found] at present
        cases present
      simp [memory]
  simp only [selectRoundRobinSync, selectRoundRobin, loaded, setRoundRobinIndexSync,
    persistRoundRobinIndex]
  refine ⟨trivial, ?_⟩
  split <;> rfl

theorem selectPrioritySync_agrees (sel : KeySelector) (ctx : StrategyContext) {keys : List κ} (nonempty : keys ≠ [])
    {indices : RoundRobinIndices}
    (cached : sel.storage = true → (indices.cache (normalizeProvider ctx.provider)).isSome) :
    (selectPrioritySync ctx keys nonempty indices).1 =
        (selectPriority sel ctx keys nonempty indices).1 ∧
      (selectPrioritySync ctx keys nonempty indices).2.cache =
        (selectPriority sel ctx keys nonempty indices).2.cache := by
  unfold selectPrioritySync selectPriority
  generalize topTier_ne_nil nonempty = some
  revert some
  generalize topTier keys = tier
  intro nonempty
  match tier, nonempty with
  | [_], _ => exact ⟨rfl, rfl⟩
  | _ :: _ :: _, nonempty => exact selectRoundRobinSync_agrees sel ctx nonempty cached

/-- Both pick the same key and leave the same pointers in memory. -/
theorem pickSync_agrees (strategy : KeySelectionStrategy)
    (turns : strategy.takesTurns = true ∨ strategy = .priority) (provider : String) (now : Int)
    (draw : Nat) {keys : List κ} (nonempty : keys ≠ []) (st : State κ) (sync async : KeyHealth)
    (cached : sel.storage = true →
      (st.roundRobinIndices.cache (normalizeProvider provider)).isSome) :
    let left := sel.pickSync strategy provider now draw keys nonempty { st with health := sync }
    let right := sel.pick strategy provider now draw keys nonempty { st with health := async }
    left.1 = right.1 ∧ left.2.roundRobinIndices.cache = right.2.roundRobinIndices.cache ∧
      left.2.usageCounts = st.usageCounts ∧ right.2.usageCounts = st.usageCounts := by
  obtain ⟨same, pointers⟩ := selectRoundRobinSync_agrees sel
    ⟨provider, sel.rateLimiter, st.usageCounts, now⟩ nonempty cached
  cases strategy with
  | leastUsed => simp [KeySelectionStrategy.takesTurns] at turns
  | loadBalanced => simp [KeySelectionStrategy.takesTurns] at turns
  | random => simp [KeySelectionStrategy.takesTurns] at turns
  | priority =>
    obtain ⟨same, pointers⟩ := selectPrioritySync_agrees sel
      ⟨provider, sel.rateLimiter, st.usageCounts, now⟩ nonempty cached
    exact ⟨same, pointers, rfl, rfl⟩
  | roundRobin => exact ⟨same, pointers, rfl, rfl⟩
  | costOptimal => exact ⟨same, pointers, rfl, rfl⟩
  | lowestLatency => exact ⟨same, pointers, rfl, rfl⟩
  | cascade => exact ⟨same, pointers, rfl, rfl⟩

/-- Two selections that fail alike and, when their strategy goes round the keys, return the
same key and leave the same pointers and usage counts in memory. -/
structure SelectionAgrees (turns : Prop)
    (sync async : Except KeyExhaustedError (Option κ) × State κ) : Prop where
  throws : (∃ e, sync.1 = .error e) ↔ ∃ e, async.1 = .error e
  returnsNull : sync.1 = .ok none ↔ async.1 = .ok none
  key : turns → ∀ key, sync.1 = .ok (some key) ↔ async.1 = .ok (some key)
  pointers : turns → sync.2.roundRobinIndices.cache = async.2.roundRobinIndices.cache
  usageCounts : turns → sync.2.usageCounts = async.2.usageCounts

theorem selectKeySync_agrees (st : State κ) (provider : String) (options : SelectKeyOptions κ)
    (now : Int) (draw : Nat)
    (inMemory : ∀ key ∈ options.candidateKeys.getD [] ++ st.keysMap.values,
      sel.InMemory st key) :
    SelectionAgrees
      ((options.strategy.getD sel.defaultStrategy).takesTurns = true ∨
        options.strategy.getD sel.defaultStrategy = .priority)
      (sel.selectKeySync st provider options now draw)
      (sel.selectKey st provider options now draw) := by
  obtain ⟨sync, health, eq⟩ := triageForSelectionSync_spec provider options now inMemory
  obtain ⟨async, health', eq', -⟩ := sel.triageForSelection_spec st provider options now
  have known : ∀ key ∈ sel.offered st provider options now, sel.InMemory st key := by
    intro key mem
    refine inMemory key ?_
    have considered := (List.mem_filter.mp mem).1
    simp only [KeySelector.considered] at considered
    split at considered
    · exact List.mem_append_right _ considered
    · cases named : options.candidateKeys with
      | none =>
        rw [named, Option.getD_none] at considered
        exact List.mem_append_right _ (getKeys_subset st (some provider) considered)
      | some keys =>
        rw [named, Option.getD_some] at considered
        exact List.mem_append_left _ considered
  simp only [selectKeySync, selectKey, eq, eq', sync, async]
  cases offered : sel.offered st provider options now with
  | nil =>
    simp only
    split
    · exact ⟨by simp, by simp, fun _ _ => by simp, fun _ => rfl, fun _ => rfl⟩
    · exact ⟨by simp, by simp, fun _ _ => by simp, fun _ => rfl, fun _ => rfl⟩
  | cons first rest =>
    rw [offered] at known
    have agree := fun turns => pickSync_agrees (options.strategy.getD sel.defaultStrategy) turns
      (SelectableKey.provider first) now draw (List.cons_ne_nil first rest) st health health' (known first List.mem_cons_self).pointer
    refine ⟨by simp, by simp, fun turns key => ?_, fun turns => ?_, fun turns => ?_⟩
    · simp only [(agree turns).1]
    · exact (agree turns).2.1
    · simp only [recordUsage, (agree turns).1, (agree turns).2.2.1, (agree turns).2.2.2]

/-- With everything they read in memory, both triages put the same keys into the same lists,
and both selections agree. -/
theorem sync_agrees (sel : KeySelector) (st : State κ) (candidateKeys : Option (List κ))
    (inMemory : ∀ key ∈ candidateKeys.getD [] ++ st.keysMap.values, sel.InMemory st key) :
    (∀ provider cost now, (sel.triageKeysSync st provider cost candidateKeys now).1.Agrees
      (sel.triageKeys st provider cost candidateKeys now).1) ∧
    ∀ provider (options : SelectKeyOptions κ) now draw, options.candidateKeys = candidateKeys →
      SelectionAgrees
        ((options.strategy.getD sel.defaultStrategy).takesTurns = true ∨
          options.strategy.getD sel.defaultStrategy = .priority)
        (sel.selectKeySync st provider options now draw)
        (sel.selectKey st provider options now draw) := by
  constructor
  · intro provider cost now
    refine (triageKeysSync_agrees provider fun key mem => ?_).2
    refine (inMemory key ?_).loaded cost now
    cases candidateKeys with
    | none => exact List.mem_append_right _ (getKeys_subset st provider mem)
    | some keys => exact List.mem_append_left _ mem
  · rintro provider options now draw rfl
    exact selectKeySync_agrees st provider options now draw inMemory

end KeySelector

end Selection

section Examples

attribute [local instance] asciiHost

namespace KeySelector

/-- A selector with a breaker, a limiter and storage. -/
def syncSelector : KeySelector where
  tenantId := some "acme"
  defaultStrategy := .priority
  circuitBreaker := some (.create {})
  rateLimiter := some (.create {})
  storage := true
  storageKeyPrefix := "ks:"

/-- Its state once two selections have loaded what they read. -/
def loadedState : State EncryptedKey :=
  [Op.setKeys threeKeys, .selectKey "groq" {} 0 0, .selectKey "groq" {} 10 0].foldl
    syncSelector.step .fresh

theorem sync_agrees_three :
    (syncSelector.triageKeysSync loadedState (some "groq") 5 none 20).1.Agrees
        (syncSelector.triageKeys loadedState (some "groq") 5 none 20).1 ∧
      SelectionAgrees True (syncSelector.selectKeySync loadedState "groq" {} 20 0)
        (syncSelector.selectKey loadedState "groq" {} 20 0) := by
  have inMemory : ∀ key ∈ loadedState.keysMap.values, syncSelector.InMemory loadedState key := by
    have cached : ∀ key ∈ loadedState.keysMap.values,
        (loadedState.health.breaker.cache (keyId key)).isSome ∧
          (loadedState.health.limiter.cache (keyId key)).isSome ∧
          (loadedState.roundRobinIndices.cache
            (normalizeProvider (SelectableKey.provider key))).isSome := by
      decide
    intro key mem
    obtain ⟨breaker, limiter, pointer⟩ := cached key mem
    exact ⟨fun _ _ => breaker, fun _ _ => limiter, fun _ => pointer⟩
  obtain ⟨triage, selection⟩ := sync_agrees syncSelector loadedState none inMemory
  have selected := selection "groq" {} 20 0 rfl
  exact ⟨triage (some "groq") 5 20, selected.throws, selected.returnsNull,
    fun _ => selected.key (Or.inr rfl), fun _ => selected.pointers (Or.inr rfl),
    fun _ => selected.usageCounts (Or.inr rfl)⟩

end KeySelector

end Examples

end KeyCollective
