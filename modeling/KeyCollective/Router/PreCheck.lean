import KeyCollective.Breaker.Eviction
import KeyCollective.Limiter.Eviction
import KeyCollective.Router.Communal
import KeyCollective.Selector.RoundRobin

/-!
# The availability check

The check a router makes for a named tenant takes a key from the pool like any other
call. What it costs the keys that are given out afterwards shows against a router that
does not make it.
-/

namespace KeyCollective

section Checks

variable [Host]

namespace KeyPool

variable (pool : KeyPool) (strategy : KeySelectionStrategy)

/-- The selector of a pool that was given a strategy. -/
def selectorBy : KeySelector := { pool.keySelector with defaultStrategy := strategy }

def getKeyBy (st : State) (provider : String) (now : Int) (draw : Nat)
    (db : Option (List KeyRow)) : Outcome String :=
  if isBlank provider then
    (.error (.invalidKey "Provider parameter cannot be empty" none), st)
  else
    match pool.ensureLoaded st db with
    | (.error e, st) => (.error e, st)
    | (.ok (), st) =>
      let (selected, selector) :=
        (pool.selectorBy strategy).selectKey st.selector provider {} now draw
      let st := { st with selector }
      match selected with
      | .ok (some key) => (.ok key.id, st)
      | .ok none => (.error .typeError, st)
      | .error e => (.error (.exhausted e), st)

/-- The strategy of a pool that was given none. -/
theorem getKeyBy_priority : pool.getKeyBy .priority = pool.getKey := rfl

end KeyPool

namespace CascadeRouter

variable (router : CascadeRouter) (pool : KeyPool) (strategy : KeySelectionStrategy)

def checkSelfKeyBy (st : KeyPool.State) (provider : String) (call : PoolCall) :
    Bool × KeyPool.State :=
  if router.hasKeyPool then
    match pool.getKeyBy strategy st provider call.now call.draw call.db with
    | (.ok _, st) => (true, st)
    | (.error _, st) => (false, st)
  else (false, st)

def selfKeyRoutedBy (st : KeyPool.State) (routed : RoutedRequest) (turns : List Turn) :
    Bool × KeyPool.State :=
  match turns with
  | [] => (false, st)
  | first :: _ =>
    if isFalsy routed.request.tenantId then (false, st)
    else router.checkSelfKeyBy pool strategy st first.candidate.provider routed.probe

def askPoolBy (request : CascadeRouteRequest) (turn : Turn) (st : KeyPool.State) :
    Round × KeyPool.State :=
  if isFalsy request.apiKey ∧ router.hasKeyPool then
    let (answer, st) := pool.getKeyBy strategy st turn.candidate.provider turn.call.now
      turn.call.draw turn.call.db
    ({ turn.round with acquired := answer.mapError PoolError.message }, st)
  else (turn.round, st)

def tryTurnsBy (request : CascadeRouteRequest) (selfKeyRouted : Bool) (turns : List Turn)
    (sent : List Sent) (attempts : List FallbackAttempt) (st : KeyPool.State) :
    Cascade × KeyPool.State :=
  router.tryTurnsWith pool (router.askPoolBy pool strategy request) request selfKeyRouted turns
    sent attempts st

/-- A routed request over a pool with a strategy, with or without the check. -/
def routeBy (checked : Bool) (st : KeyPool.State) (routed : RoutedRequest) :
    Cascade × KeyPool.State :=
  let turns := router.turnsToTry routed
  let (selfKeyRouted, st) :=
    if checked then router.selfKeyRoutedBy pool strategy st routed turns else (false, st)
  router.tryTurnsBy pool strategy routed.request selfKeyRouted turns [] [] st

/-- Over a pool that was given no strategy, and with the check, this is the router. -/
theorem routeBy_priority : router.routeBy pool .priority true = router.route pool := rfl

/-- The keys that requests went out on, in order. -/
def dispatchedKeys (cascade : Cascade) : List (Option String) :=
  cascade.sent.map Sent.keyId

end CascadeRouter

/-! ## Selections from states that look alike -/

section Selections

variable {κ : Type} [SelectableKey κ] {ctx : TriageContext} {health later : KeyHealth}

omit [Host] in
theorem SameViews.symm (same : SameViews ctx health later) : SameViews ctx later health where
  breaker b hb id := (same.breaker b hb id).symm
  limiter r hr id := (same.limiter r hr id).symm

theorem triageKeysAsync_congr (same : SameViews ctx health later) (provider : Option String)
    (candidates : List κ) :
    (triageKeysAsync ctx provider candidates later).1 =
      (triageKeysAsync ctx provider candidates health).1 := by
  simp only [triageKeysAsync, (triageLoop_eq ctx candidates _).1, verdict_congr ctx same]

namespace KeySelector

variable {sel : KeySelector} {st st' : State κ}

/-- A reader at `now` finds the same keys, and they are given out from the same pointers. -/
structure Alike (sel : KeySelector) (now : Int) (st st' : State κ) : Prop where
  keysMap : st.keysMap = st'.keysMap
  pointers : st.roundRobinIndices = st'.roundRobinIndices
  views : SameViews (sel.triageContext 0 now) st'.health st.health

theorem Alike.triage {now : Int} (alike : sel.Alike now st st') (provider : Option String)
    (cost : Int) (candidateKeys : Option (List κ)) :
    (sel.triageKeys st provider cost candidateKeys now).1 =
        (sel.triageKeys st' provider cost candidateKeys now).1 ∧
      sel.Alike now (sel.triageKeys st provider cost candidateKeys now).2
        (sel.triageKeys st' provider cost candidateKeys now).2 := by
  have same : SameViews (sel.triageContext cost now) st'.health st.health :=
    ⟨alike.views.breaker, alike.views.limiter⟩
  obtain ⟨health, eq, seen⟩ := sel.triageKeys_state st provider cost candidateKeys now
  obtain ⟨health', eq', seen'⟩ := sel.triageKeys_state st' provider cost candidateKeys now
  refine ⟨?_, ?_⟩
  · simp only [triageKeys, getKeys, alike.keysMap]
    exact triageKeysAsync_congr same provider _
  · have views := (seen'.symm.trans same).trans seen
    rw [eq, eq']
    exact ⟨alike.keysMap, alike.pointers, ⟨views.breaker, views.limiter⟩⟩

theorem Alike.triageForSelection {now : Int} (alike : sel.Alike now st st') (provider : String)
    (options : SelectKeyOptions κ) :
    (sel.triageForSelection st provider options now).1 =
        (sel.triageForSelection st' provider options now).1 ∧
      sel.Alike now (sel.triageForSelection st provider options now).2
        (sel.triageForSelection st' provider options now).2 := by
  obtain ⟨first, after⟩ := alike.triage (some provider) (options.costMicrodollars.getD 0)
    options.candidateKeys
  obtain ⟨second, last⟩ := after.triage (some "*") (options.costMicrodollars.getD 0) none
  simp only [KeySelector.triageForSelection, first]
  split
  · exact ⟨by rw [second], last⟩
  · exact ⟨rfl, after⟩

/-- Strategies that go round the keys read nothing but the pointers. -/
theorem pick_alike {strategy : KeySelectionStrategy}
    (turns : strategy.takesTurns = true ∨ strategy = .priority) {now : Int}
    (alike : sel.Alike now st st') (provider : String) (draw : Nat) {keys : List κ}
    (nonempty : keys ≠ []) :
    (sel.pick strategy provider now draw keys nonempty st).1 =
        (sel.pick strategy provider now draw keys nonempty st').1 ∧
      sel.Alike now (sel.pick strategy provider now draw keys nonempty st).2
        (sel.pick strategy provider now draw keys nonempty st').2 := by
  obtain ⟨keysMap, pointers, views⟩ := alike
  cases strategy with
  | leastUsed => simp [KeySelectionStrategy.takesTurns] at turns
  | loadBalanced => simp [KeySelectionStrategy.takesTurns] at turns
  | random => simp [KeySelectionStrategy.takesTurns] at turns
  | priority =>
    simp only [pick, selectPriority, selectRoundRobin, pointers]
    refine ⟨trivial, keysMap, ?_, views⟩
    split <;> rfl
  | roundRobin =>
    simp only [pick, selectRoundRobin, pointers]
    exact ⟨trivial, keysMap, rfl, views⟩
  | costOptimal =>
    simp only [pick, selectRoundRobin, pointers]
    exact ⟨trivial, keysMap, rfl, views⟩
  | lowestLatency =>
    simp only [pick, selectRoundRobin, pointers]
    exact ⟨trivial, keysMap, rfl, views⟩
  | cascade =>
    simp only [pick, selectRoundRobin, pointers]
    exact ⟨trivial, keysMap, rfl, views⟩

theorem Alike.selectKey {now : Int} (alike : sel.Alike now st st') (provider : String)
    (options : SelectKeyOptions κ)
    (turns : (options.strategy.getD sel.defaultStrategy).takesTurns = true ∨
      options.strategy.getD sel.defaultStrategy = .priority) (draw : Nat) :
    (sel.selectKey st provider options now draw).1 =
        (sel.selectKey st' provider options now draw).1 ∧
      sel.Alike now (sel.selectKey st provider options now draw).2
        (sel.selectKey st' provider options now draw).2 := by
  obtain ⟨same, after⟩ := alike.triageForSelection provider options
  simp only [KeySelector.selectKey, same]
  split
  · split
    · exact ⟨rfl, after⟩
    · exact ⟨rfl, after⟩
  · rename_i first rest _
    obtain ⟨picked, last⟩ := pick_alike turns after (SelectableKey.provider first) draw
      (List.cons_ne_nil first rest)
    exact ⟨by rw [picked], last.keysMap, last.pointers, last.views⟩

/-- A selection that takes no turn shows to nobody. -/
theorem selectKey_unmoved (st : State κ) (provider : String) (options : SelectKeyOptions κ)
    (now : Int) (draw : Nat)
    (unmoved : sel.offered st provider options now = [] ∨
      options.strategy.getD sel.defaultStrategy = .priority ∧
        ∃ only, topTier (sel.offered st provider options now) = [only]) :
    sel.Alike now (sel.selectKey st provider options now draw).2 st := by
  obtain ⟨found, health, eq, seen⟩ := sel.triageForSelection_spec st provider options now
  have views : SameViews (sel.triageContext 0 now) st.health health :=
    ⟨seen.breaker, seen.limiter⟩
  rw [← found] at unmoved
  simp only [KeySelector.selectKey, eq]
  split
  · split
    · exact ⟨rfl, rfl, views⟩
    · exact ⟨rfl, rfl, views⟩
  · rename_i first rest some
    obtain none | ⟨priority, only, single⟩ := unmoved
    · rw [some] at none
      cases none
    · rw [some] at single
      simp only [pick, priority, selectPriority]
      refine ⟨rfl, ?_, views⟩
      generalize topTier_ne_nil (List.cons_ne_nil first rest) = some
      revert some
      rw [single]
      exact fun _ => rfl

end KeySelector

end Selections

/-! ## Pools that look alike -/

namespace KeyPool

variable {pool : KeyPool} {st st' st'' : State} {now : Int}

/-- Loaded pools with the same keys, that look the same at `now`. -/
structure LooksLike (pool : KeyPool) (now : Int) (st st' : State) : Prop where
  loaded : st.isLoaded = true
  loaded' : st'.isLoaded = true
  keysMap : st.keysMap = st'.keysMap
  selector : pool.keySelector.Alike now st.selector st'.selector

omit [Host] in
theorem LooksLike.trans (h : pool.LooksLike now st st') (h' : pool.LooksLike now st' st'') :
    pool.LooksLike now st st'' :=
  ⟨h.loaded, h'.loaded', h.keysMap.trans h'.keysMap, h.selector.keysMap.trans h'.selector.keysMap,
    h.selector.pointers.trans h'.selector.pointers, h'.selector.views.trans h.selector.views⟩

omit [Host] in
theorem LooksLike.later (h : pool.LooksLike now st st') {later : Int} (le : now ≤ later) :
    pool.LooksLike later st st' := by
  refine ⟨h.loaded, h.loaded', h.keysMap, h.selector.keysMap, h.selector.pointers, ⟨?_, ?_⟩⟩
  · intro b hb id
    change b.view st.selector.health.breaker id later = b.view st'.selector.health.breaker id later
    have seen : b.view st.selector.health.breaker id now =
        b.view st'.selector.health.breaker id now := h.selector.views.breaker b hb id
    rw [b.view_later _ id le, b.view_later _ id le, seen]
  · intro r hr id
    change r.prune (r.load st.selector.health.limiter id) later =
      r.prune (r.load st'.selector.health.limiter id) later
    have seen : r.prune (r.load st.selector.health.limiter id) now =
        r.prune (r.load st'.selector.health.limiter id) now := h.selector.views.limiter r hr id
    rw [← r.prune_later (r.load st.selector.health.limiter id) le, seen, r.prune_later _ le]

/-- Pools that look alike give out the same key. -/
theorem LooksLike.getKeyBy (h : pool.LooksLike now st st') {strategy : KeySelectionStrategy}
    (turns : strategy.takesTurns = true ∨ strategy = .priority) (provider : String) (draw : Nat)
    (db : Option (List KeyRow)) :
    (pool.getKeyBy strategy st provider now draw db).1 =
        (pool.getKeyBy strategy st' provider now draw db).1 ∧
      pool.LooksLike now (pool.getKeyBy strategy st provider now draw db).2
        (pool.getKeyBy strategy st' provider now draw db).2 := by
  have selector : (pool.selectorBy strategy).Alike now st.selector st'.selector :=
    ⟨h.selector.keysMap, h.selector.pointers, h.selector.views⟩
  obtain ⟨same, after⟩ := selector.selectKey provider {} turns draw
  have alike : pool.LooksLike now
      { st with selector := ((pool.selectorBy strategy).selectKey st.selector provider {} now
          draw).2 }
      { st' with selector := ((pool.selectorBy strategy).selectKey st'.selector provider {} now
          draw).2 } :=
    ⟨h.loaded, h.loaded', h.keysMap, after.keysMap, after.pointers, after.views⟩
  simp only [KeyPool.getKeyBy, ensureLoaded_loaded pool h.loaded,
    ensureLoaded_loaded pool h.loaded', same]
  split
  · exact ⟨rfl, h⟩
  · split
    · exact ⟨rfl, alike⟩
    · exact ⟨rfl, alike⟩
    · exact ⟨rfl, alike⟩

/-- A check that takes no turn shows to nobody. -/
theorem getKeyBy_unmoved {strategy : KeySelectionStrategy} (loaded : st.isLoaded = true)
    (provider : String) (draw : Nat) (db : Option (List KeyRow))
    (unmoved : (pool.selectorBy strategy).offered st.selector provider {} now = [] ∨
      strategy = .priority ∧
        ∃ only, topTier ((pool.selectorBy strategy).offered st.selector provider {} now) = [only]) :
    pool.LooksLike now (pool.getKeyBy strategy st provider now draw db).2 st := by
  have selected := (pool.selectorBy strategy).selectKey_unmoved st.selector provider {} now draw
    unmoved
  have alike : pool.LooksLike now
      { st with selector := ((pool.selectorBy strategy).selectKey st.selector provider {} now
          draw).2 } st :=
    ⟨loaded, loaded, rfl, selected.keysMap, selected.pointers, selected.views⟩
  have self : pool.LooksLike now st st := ⟨loaded, loaded, rfl, rfl, rfl, .refl _ _⟩
  simp only [KeyPool.getKeyBy, ensureLoaded_loaded pool loaded]
  split
  · exact self
  · split
    · exact alike
    · exact alike
    · exact alike

omit [Host] in
theorem view_recordResult (b : CircuitBreaker) {s s' : CircuitBreaker.Store} {now : Int}
    (same : ∀ id, b.view s id now = b.view s' id now) (keyId : String) (success : Bool)
    (id : String) :
    b.view (b.recordResult s keyId success now) id now =
      b.view (b.recordResult s' keyId success now) id now := by
  have found := same id
  simp only [CircuitBreaker.view, b.load_recordResult] at found ⊢
  split
  · simp only [CircuitBreaker.applyResult, found]
  · exact found

omit [Host] in
theorem view_increment (r : RateLimiter) {s s' : RateLimiter.Store} {now : Int}
    (same : ∀ id, r.view s id now = r.view s' id now) (keyId : Option String) (cost : Int)
    (id : String) :
    r.view (r.increment s keyId cost now) id now =
      r.view (r.increment s' keyId cost now) id now := by
  simp only [RateLimiter.increment, RateLimiter.view_save, RateLimiter.view_getData,
    RateLimiter.getData_fst, same]

/-- A report without its label. -/
def unlabelled : PoolReport → PoolReport
  | .recordDispatch keyId _ => .recordDispatch keyId false
  | report => report

omit [Host] in
/-- A report that a loaded pool takes on a key it has. -/
theorem reportOn_loaded (loaded : st.isLoaded = true) (id : String) (db : Option (List KeyRow))
    (report : State → State) :
    (pool.reportOn st id db report).2 =
      if !isBlank id && st.keysMap.has id then report st else st := by
  unfold reportOn
  rw [ensureLoaded_loaded pool loaded]
  cases isBlank id with
  | true => rfl
  | false => cases held : st.keysMap.has id <;> simp [held]

omit [Host] in
/-- Pools that look alike take a report alike, whatever its label. -/
theorem LooksLike.record (h : pool.LooksLike now st st') (db : Option (List KeyRow))
    {report report' : PoolReport} (same : unlabelled report = unlabelled report') :
    pool.LooksLike now (pool.record db now st report) (pool.record db now st' report') := by
  have reported (id : String) (f : State → State)
      (alike : pool.LooksLike now (f st) (f st')) :
      pool.LooksLike now (pool.reportOn st id db f).2 (pool.reportOn st' id db f).2 := by
    rw [reportOn_loaded h.loaded, reportOn_loaded h.loaded', h.keysMap]
    split
    · exact alike
    · exact h
  cases report with
  | recordResult keyId success =>
    cases report' with
    | recordResult _ _ =>
      cases same
      refine reported keyId _ ⟨h.loaded, h.loaded', h.keysMap, h.selector.keysMap,
        h.selector.pointers, ⟨?_, h.selector.views.limiter⟩⟩
      rintro b hb id
      cases hb
      exact view_recordResult pool.circuitBreaker (h.selector.views.breaker _ rfl) keyId success id
    | recordUsage _ _ => cases same
    | recordDispatch _ _ => cases same
  | recordUsage keyId cost =>
    cases report' with
    | recordUsage _ _ =>
      cases same
      refine reported keyId _ ⟨h.loaded, h.loaded', h.keysMap, h.selector.keysMap,
        h.selector.pointers, ⟨h.selector.views.breaker, ?_⟩⟩
      rintro r hr id
      cases hr
      exact view_increment pool.rateLimiter (h.selector.views.limiter _ rfl) (some keyId) cost id
    | recordResult _ _ => cases same
    | recordDispatch _ _ => cases same
  | recordDispatch keyId isCommunal =>
    cases report' with
    | recordDispatch _ _ =>
      exact ⟨h.loaded, h.loaded', h.keysMap, h.selector⟩
    | recordResult _ _ => cases same
    | recordUsage _ _ => cases same

omit [Host] in
theorem LooksLike.recordAll (h : pool.LooksLike now st st') (db : Option (List KeyRow))
    {reports reports' : List PoolReport} (same : reports.map unlabelled = reports'.map unlabelled) :
    pool.LooksLike now (pool.recordAll db now st reports) (pool.recordAll db now st' reports') := by
  induction reports generalizing st st' reports' with
  | nil =>
    cases reports' with
    | nil => exact h
    | cons _ _ => cases same
  | cons report rest ih =>
    cases reports' with
    | nil => cases same
    | cons report' rest' =>
      rw [List.map_cons, List.map_cons, List.cons.injEq] at same
      exact ih (h.record db same.1) same.2

end KeyPool

/-! ## Requests routed with and without the check -/

namespace CascadeRouter

variable (router : CascadeRouter) (pool : KeyPool) (strategy : KeySelectionStrategy)

/-- The clock does not run backwards while the turns are taken. -/
def OrderedTurns : Int → List Turn → Prop
  | _, [] => True
  | clock, turn :: rest =>
    clock ≤ turn.call.now ∧ turn.call.now ≤ turn.round.now ∧ OrderedTurns turn.round.now rest

/-- The instant the last turn ends. -/
def lastTime : Int → List Turn → Int
  | clock, [] => clock
  | _, turn :: rest => lastTime turn.round.now rest

/-- The pool and the instant of its last request. -/
abbrev Clocked := KeyPool.State × Int

def stepBy (run : Clocked) (routed : RoutedRequest) : Clocked :=
  ((router.routeBy pool strategy true run.1 routed).2,
    lastTime routed.probe.now (router.turnsToTry routed))

/-- The keys of a run's requests, with or without the check. -/
def keysBy (checked : Bool) : KeyPool.State → List RoutedRequest → List (List (Option String))
  | _, [] => []
  | st, routed :: rest =>
    dispatchedKeys (router.routeBy pool strategy checked st routed).1 ::
      keysBy checked (router.routeBy pool strategy checked st routed).2 rest

def Ordered (run : Clocked) (routed : RoutedRequest) : Prop :=
  run.2 ≤ routed.probe.now ∧ OrderedTurns routed.probe.now (router.turnsToTry routed)

/-- The check is not made, or it takes no turn of a loaded pool: no key is healthy, or one
alone has the highest priority. -/
def Unmoved (st : KeyPool.State) (routed : RoutedRequest) : Prop :=
  ∀ first rest, router.turnsToTry routed = first :: rest →
    isFalsy routed.request.tenantId = false → router.hasKeyPool = true →
      st.isLoaded = true ∧
        ((pool.selectorBy strategy).offered st.selector first.candidate.provider {}
            routed.probe.now = [] ∨
          strategy = .priority ∧ ∃ only, topTier ((pool.selectorBy strategy).offered st.selector
            first.candidate.provider {} routed.probe.now) = [only])

variable {router pool strategy}

/-- Two rounds end alike. -/
def RoundEnd.Same : RoundEnd → RoundEnd → Prop
  | .answered _, .answered _ => True
  | .cancelled failure, .cancelled failure' => failure = failure'
  | .failed failure, .failed failure' => failure = failure'
  | _, _ => False

/-- Whether a self key was found shows in the label of a dispatch and in the response. -/
theorem executeRound_flag (router : CascadeRouter) (request : CascadeRouteRequest)
    (flag flag' : Bool) (attempts : List FallbackAttempt) (candidate : ModelDef) (round : Round)
    (keyId apiKey : Option String) :
    let left := router.executeRound request flag attempts candidate round keyId apiKey
    let right := router.executeRound request flag' attempts candidate round keyId apiKey
    left.1.keyId = right.1.keyId ∧
      left.1.reports.map KeyPool.unlabelled = right.1.reports.map KeyPool.unlabelled ∧
      RoundEnd.Same left.2 right.2 := by
  unfold executeRound
  rcases router.upstreamClient.chat (upstreamRequest request candidate keyId apiKey)
    round.exchange with ⟨reports, failure | chatRes⟩
  · simp only
    split
    · exact ⟨trivial, trivial, rfl⟩
    · exact ⟨trivial, trivial, rfl⟩
  · refine ⟨rfl, ?_, trivial⟩
    simp only [List.map_append, List.append_cancel_left_eq]
    unfold reportsOn
    split
    · split
      · simp only [successReports, List.map_append, List.map_cons, KeyPool.unlabelled]
      · rfl
    · rfl

omit [Host] in
theorem le_lastTime {clock : Int} {turns : List Turn} (ordered : OrderedTurns clock turns) :
    clock ≤ lastTime clock turns := by
  induction turns generalizing clock with
  | nil => exact le_refl clock
  | cons turn rest ih =>
    obtain ⟨asked, ended, later⟩ := ordered
    have last := ih later
    simp only [lastTime]
    omega

theorem askPoolBy_alike (turns : strategy.takesTurns = true ∨ strategy = .priority)
    (router : CascadeRouter) (request : CascadeRouteRequest) (turn : Turn) {st st' : KeyPool.State}
    (h : pool.LooksLike turn.call.now st st') :
    (router.askPoolBy pool strategy request turn st).1 =
        (router.askPoolBy pool strategy request turn st').1 ∧
      (router.askPoolBy pool strategy request turn st).1.now = turn.round.now ∧
      (router.askPoolBy pool strategy request turn st).1.abortedAfter = turn.round.abortedAfter ∧
      pool.LooksLike turn.call.now (router.askPoolBy pool strategy request turn st).2
        (router.askPoolBy pool strategy request turn st').2 := by
  obtain ⟨same, after⟩ := h.getKeyBy turns turn.candidate.provider turn.call.draw turn.call.db
  unfold askPoolBy
  split
  · simp only [same]
    exact ⟨trivial, trivial, trivial, after⟩
  · exact ⟨rfl, rfl, rfl, h⟩

/-- Pools that look alike serve the turns of a request on the same keys. -/
theorem tryTurnsBy_alike (router : CascadeRouter)
    (turns : strategy.takesTurns = true ∨ strategy = .priority)
    (request : CascadeRouteRequest) (flag flag' : Bool) {left : List Turn} {clock : Int}
    (ordered : OrderedTurns clock left) {st st' : KeyPool.State} (h : pool.LooksLike clock st st')
    {sent sent' : List Sent} (same : sent.map Sent.keyId = sent'.map Sent.keyId)
    (attempts : List FallbackAttempt) :
    let checked := router.tryTurnsBy pool strategy request flag left sent attempts st
    let unchecked := router.tryTurnsBy pool strategy request flag' left sent' attempts st'
    dispatchedKeys checked.1 = dispatchedKeys unchecked.1 ∧
      pool.LooksLike (lastTime clock left) checked.2 unchecked.2 := by
  induction left generalizing clock st st' sent sent' attempts with
  | nil => exact ⟨same, h⟩
  | cons turn rest ih =>
    obtain ⟨asks, ends, later⟩ := ordered
    have last := le_lastTime later
    unfold tryTurnsBy at ih ⊢
    simp only [tryTurnsWith, lastTime]
    cases gone : turn.round.abortedBefore with
    | true => exact ⟨same, h.later (by omega)⟩
    | false =>
      obtain ⟨asked, ended, -, answered⟩ := askPoolBy_alike turns router request turn (h.later asks)
      have now := answered.later ends
      simp only [Bool.false_eq_true, ↓reduceIte, ← asked, ended]
      generalize (router.askPoolBy pool strategy request turn st).1 = round at *
      cases acquired : router.acquireKey request round with
      | error message => exact ih later now same _
      | ok pair =>
        obtain ⟨keyId, apiKey⟩ := pair
        obtain ⟨key, reports, ends⟩ := executeRound_flag router request flag flag' attempts
          turn.candidate round keyId apiKey
        simp only
        generalize router.executeRound request flag attempts turn.candidate round keyId apiKey =
          made at key reports ends ⊢
        generalize router.executeRound request flag' attempts turn.candidate round keyId apiKey =
          made' at key reports ends ⊢
        obtain ⟨made, ending⟩ := made
        obtain ⟨made', ending'⟩ := made'
        change made.keyId = made'.keyId at key
        change RoundEnd.Same ending ending' at ends
        have extended : (sent ++ [made]).map Sent.keyId = (sent' ++ [made']).map Sent.keyId := by
          simp only [List.map_append, same, List.map_cons, List.map_nil, key]
        have recorded := now.recordAll turn.call.db reports
        cases ending with
        | answered response =>
          cases ending' with
          | answered _ => exact ⟨extended, recorded.later last⟩
          | cancelled _ => cases ends
          | failed _ => cases ends
        | cancelled failure =>
          cases ending' with
          | cancelled _ => exact ⟨extended, recorded.later last⟩
          | answered _ => cases ends
          | failed _ => cases ends
        | failed failure =>
          cases ending' with
          | failed _ =>
            cases ends
            exact ih later recorded extended _
          | answered _ => cases ends
          | cancelled _ => cases ends

/-- A check that takes no turn is not made or shows to nobody. -/
theorem selfKeyRoutedBy_unmoved {st : KeyPool.State} {routed : RoutedRequest}
    (unmoved : router.Unmoved pool strategy st routed) :
    router.selfKeyRoutedBy pool strategy st routed (router.turnsToTry routed) = (false, st) ∨
      pool.LooksLike routed.probe.now
        (router.selfKeyRoutedBy pool strategy st routed (router.turnsToTry routed)).2 st := by
  unfold selfKeyRoutedBy
  cases tried : router.turnsToTry routed with
  | nil => exact Or.inl rfl
  | cons first rest =>
    cases unnamed : isFalsy routed.request.tenantId with
    | true => exact Or.inl rfl
    | false =>
      simp only [checkSelfKeyBy, Bool.false_eq_true, ↓reduceIte]
      split
      · rename_i pooled
        obtain ⟨loaded, still⟩ := unmoved first rest tried unnamed pooled
        have alike := KeyPool.getKeyBy_unmoved loaded first.candidate.provider routed.probe.draw
          routed.probe.db still
        split
        · rename_i asked
          rw [asked] at alike
          exact Or.inr alike
        · rename_i asked
          rw [asked] at alike
          exact Or.inr alike
      · exact Or.inl rfl

/-- The pools of a run with the check and of one without it. -/
def Beside (pool : KeyPool) (run : Clocked) (st : KeyPool.State) : Prop :=
  run.1 = st ∨ pool.LooksLike run.2 run.1 st

theorem stepBy_beside (turns : strategy.takesTurns = true ∨ strategy = .priority) {run : Clocked}
    {st : KeyPool.State} (beside : Beside pool run st) {routed : RoutedRequest}
    (ordered : router.Ordered run routed) (unmoved : router.Unmoved pool strategy run.1 routed) :
    dispatchedKeys (router.routeBy pool strategy true run.1 routed).1 =
        dispatchedKeys (router.routeBy pool strategy false st routed).1 ∧
      Beside pool (router.stepBy pool strategy run routed)
        (router.routeBy pool strategy false st routed).2 := by
  obtain ⟨probed, later⟩ := ordered
  have served (flag : Bool) {checked : KeyPool.State}
      (alike : pool.LooksLike routed.probe.now checked st) :
      let left := router.tryTurnsBy pool strategy routed.request flag (router.turnsToTry routed)
        [] [] checked
      let right := router.tryTurnsBy pool strategy routed.request false
        (router.turnsToTry routed) [] [] st
      dispatchedKeys left.1 = dispatchedKeys right.1 ∧
        pool.LooksLike (lastTime routed.probe.now (router.turnsToTry routed)) left.2 right.2 :=
    tryTurnsBy_alike router turns routed.request flag false later alike rfl []
  simp only [routeBy, stepBy, ↓reduceIte, Bool.false_eq_true]
  rcases selfKeyRoutedBy_unmoved unmoved with unmade | unseen
  · simp only [unmade]
    rcases beside with rfl | alike
    · exact ⟨rfl, Or.inl rfl⟩
    · obtain ⟨keys, after⟩ := served false (alike.later probed)
      exact ⟨keys, Or.inr after⟩
  · rcases beside with rfl | alike
    · obtain ⟨keys, after⟩ := served _ unseen
      exact ⟨keys, Or.inr after⟩
    · obtain ⟨keys, after⟩ := served _ (unseen.trans (alike.later probed))
      exact ⟨keys, Or.inr after⟩

/-- In every run whose checks take no turn, the check changes nothing about the keys that
requests go out on. -/
theorem precheck_harmless (router : CascadeRouter) (pool : KeyPool)
    {strategy : KeySelectionStrategy} (turns : strategy.takesTurns = true ∨ strategy = .priority)
    (st : KeyPool.State) (clock : Int) (requests : List RoutedRequest)
    (run : Transition.Guarded (router.stepBy pool strategy)
      (fun run routed => router.Ordered run routed ∧ router.Unmoved pool strategy run.1 routed)
      (st, clock) requests) :
    router.keysBy pool strategy true st requests =
      router.keysBy pool strategy false st requests := by
  have beside : ∀ (start : Clocked) (other : KeyPool.State), Beside pool start other →
      Transition.Guarded (router.stepBy pool strategy)
        (fun run routed => router.Ordered run routed ∧ router.Unmoved pool strategy run.1 routed)
        start requests →
      router.keysBy pool strategy true start.1 requests =
        router.keysBy pool strategy false other requests := by
    clear run
    induction requests with
    | nil => exact fun _ _ _ _ => rfl
    | cons routed rest ih =>
      intro start other beside run
      obtain ⟨⟨ordered, unmoved⟩, later⟩ := run
      obtain ⟨keys, after⟩ := stepBy_beside turns beside ordered unmoved
      have others := ih _ _ after later
      simp only [keysBy, keys]
      exact congrArg _ others
  exact beside (st, clock) st (Or.inl rfl) run

end CascadeRouter

end Checks

section Examples

attribute [local instance] asciiHost

namespace CascadeRouter

open KeyPool

/-- `acme`'s pool, loaded with keys of the given ids and one priority. -/
def acmeLoaded (ids : List String) : KeyPool.State :=
  acmePool.after acmePool.start
    (.request (listKeys (ids.map fun id => { acmeRow with id })))

theorem turnsToTry_llamaRequest :
    acmeRouter.turnsToTry (llamaRequest (some "acme")) = (llamaRequest (some "acme")).turns :=
  rfl

/-- A check takes no turn when one key alone has the highest priority. -/
theorem llamaRequest_unmoved {st : KeyPool.State} (loaded : st.isLoaded = true)
    (single : (topTier ((acmePool.selectorBy .priority).offered st.selector "groq" {} 0)).length =
      1) :
    acmeRouter.Unmoved acmePool .priority st (llamaRequest (some "acme")) := by
  intro first rest tried _ _
  rw [turnsToTry_llamaRequest] at tried
  cases tried
  exact ⟨loaded, Or.inr ⟨rfl, List.length_eq_one_iff.mp single⟩⟩

theorem llamaRequest_ordered (st : KeyPool.State) :
    acmeRouter.Ordered (st, 0) (llamaRequest (some "acme")) := by
  refine ⟨le_refl _, ?_⟩
  rw [turnsToTry_llamaRequest]
  exact ⟨le_refl _, le_refl _, trivial⟩

/-- `acme`'s pool with a second key whose breaker has tripped. -/
def acmeTripped : KeyPool.State :=
  (List.replicate defaultCircuitBreakerThreshold ()).foldl
    (fun st _ => (acmePool.recordResult st "k2" false 0 none).2) (acmeLoaded ["k1", "k2"])

theorem precheck_harmless_tripped :
    acmeRouter.keysBy acmePool .priority true acmeTripped
        [llamaRequest (some "acme"), llamaRequest (some "acme")] =
      acmeRouter.keysBy acmePool .priority false acmeTripped
        [llamaRequest (some "acme"), llamaRequest (some "acme")] := by
  refine precheck_harmless acmeRouter acmePool (Or.inr rfl) acmeTripped 0
    [llamaRequest (some "acme"), llamaRequest (some "acme")]
    ⟨⟨llamaRequest_ordered _, ?_⟩, ⟨llamaRequest_ordered _, ?_⟩, trivial⟩
  · exact llamaRequest_unmoved (by decide) (by decide)
  · exact llamaRequest_unmoved (by decide) (by decide)

/-- Two keys of one priority: each request takes a turn for the check and one for itself, so
both go out on the second key. -/
theorem precheck_skews :
    acmeRouter.keysBy acmePool .priority true (acmeLoaded ["k1", "k2"])
        [llamaRequest (some "acme"), llamaRequest (some "acme")] =
          [[some "k2"], [some "k2"]] ∧
      acmeRouter.keysBy acmePool .priority true (acmeLoaded ["k1", "k2"])
          [llamaRequest (some "acme"), llamaRequest (some "acme")] ≠
        acmeRouter.keysBy acmePool .priority false (acmeLoaded ["k1", "k2"])
          [llamaRequest (some "acme"), llamaRequest (some "acme")] := by
  decide

end CascadeRouter

end Examples

end KeyCollective
