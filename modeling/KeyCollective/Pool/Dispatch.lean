import KeyCollective.Limiter.Safety
import KeyCollective.Pool.Agreement

/-!
# Dispatches and reports

Clients call `getKey` and report the usage of the key later, in any order; other
calls may come between. Selection checks the limiter, and only a report counts.
-/

namespace KeyCollective.KeyPool

open SlidingWindow RateLimiter

inductive Rpc where
  | getKey (provider : String) (now : Int) (draw : Nat) (db : Option (List KeyRow))
  | recordUsage (id : String) (costMicrodollars now : Int) (db : Option (List KeyRow))
  | recordResult (id : String) (success : Bool) (now : Int) (db : Option (List KeyRow))
  | manage (op : Op)
deriving DecidableEq, Repr

/-- The pool, with every dispatch of a key, the dispatches no report has answered
yet, and every usage recorded. -/
structure Traffic where
  st : State
  clock : Int
  dispatched : List Increment
  outstanding : List Increment
  recorded : List Increment

def Traffic.start (pool : KeyPool) (clock : Int) : Traffic := ⟨pool.start, clock, [], [], []⟩

section Interleavings

variable [Host] (pool : KeyPool)

def serve (t : Traffic) : Rpc → Traffic
  | .getKey provider now draw db =>
    match pool.getKey t.st provider now draw db with
    | (.ok id, st) =>
      { t with
        st
        clock := now
        dispatched := t.dispatched ++ [⟨id, now⟩]
        outstanding := t.outstanding ++ [⟨id, now⟩] }
    | (.error _, st) => { t with st, clock := now }
  | .recordUsage id cost now db =>
    match pool.recordUsage t.st id cost now db with
    | (.ok (), st) =>
      -- a report answers the oldest dispatch of its key that is still open
      { t with
        st
        clock := now
        outstanding := t.outstanding.eraseP fun d => d.keyId = id
        recorded := t.recorded ++ [⟨id, now⟩] }
    | (.error _, st) => { t with st, clock := now }
  | .recordResult id success now db =>
    { t with st := (pool.recordResult t.st id success now db).2, clock := now }
  | .manage op => { t with st := pool.step t.st op }

/-- The calls come in the order of the clock, and when a key is asked for, every key
the limiter would still allow has room for its unreported dispatches as well. -/
def Spaced (t : Traffic) : Rpc → Prop
  | .getKey _ now _ _ =>
    t.clock ≤ now ∧ ∀ id,
      let r := pool.rateLimiter
      let data := r.view t.st.selector.health.limiter id now
      (r.evaluate data now 0).allowed = true →
        calculateRpm data now r.windowSizeMs +
          admitted t.outstanding id (now - r.windowSizeMs) now < r.rpmLimit ∧
        calculateRpd data now r.dayWindowMs +
          admitted t.outstanding id (now - r.dayWindowMs) now < r.rpdLimit
  | .recordUsage _ _ now _ => t.clock ≤ now
  | .recordResult _ _ now _ => t.clock ≤ now
  | .manage _ => True

/-! ## What the other calls leave alone -/

omit [Host] in
theorem loadRows_health (st : State) (db : Option (List KeyRow)) :
    (loadRows st db).selector.health = st.selector.health := by
  unfold loadRows
  split
  · split
    · rfl
    · rfl
  · rfl

omit [Host] in
theorem ensureLoaded_health (st : State) (db : Option (List KeyRow)) :
    (pool.ensureLoaded st db).2.selector.health = st.selector.health := by
  unfold ensureLoaded
  obtain ⟨tenantId, bound⟩ := pool.restoreTenant_eq st
  split
  · rfl
  · simp only [bound]
    split
    · rename_i stored _
      obtain ⟨tenant, keysMap, eq⟩ := pool.restoreKeys_spec stored { st with tenantId }
      revert eq
      rcases pool.restoreKeys stored { st with tenantId } with ⟨result, restored⟩
      rintro rfl
      cases result with
      | error e => rfl
      | ok => exact loadRows_health _ db
    · exact loadRows_health _ db

omit [Host] in
theorem addKeysSync_health (keys : List EncryptedKey) (st : State) :
    (pool.addKeysSync keys st).2.selector.health = st.selector.health := by
  obtain ⟨tenantId, eq⟩ := pool.addKeysSync_spec keys st
  rw [eq]

omit [Host] in
theorem thenPersist_health (outcome : Outcome Unit) :
    (thenPersist outcome).2.selector.health = outcome.2.selector.health := by
  obtain ⟨result, st⟩ := outcome
  cases result <;> rfl

omit [Host] in
/-- Managing the keys leaves the counters as they are, or forgets the cached ones. -/
theorem step_limiter (st : State) (op : Op) :
    (pool.step st op).selector.health.limiter = st.selector.health.limiter ∨
    (pool.step st op).selector.health.limiter = st.selector.health.limiter.evict := by
  cases op with
  | addKey key db =>
    left
    have loaded := pool.ensureLoaded_health st db
    simp only [step, addKey]
    revert loaded
    rcases pool.ensureLoaded st db with ⟨result, st'⟩
    intro loaded
    cases result with
    | error e => exact congrArg KeyHealth.limiter loaded
    | ok =>
      have added := pool.addKeysSync_health [key] st'
      rw [← addKeySync_eq] at added
      exact congrArg KeyHealth.limiter ((thenPersist_health _).trans (added.trans loaded))
  | addKeys keys db =>
    left
    have loaded := pool.ensureLoaded_health st db
    simp only [step, addKeys]
    revert loaded
    rcases pool.ensureLoaded st db with ⟨result, st'⟩
    intro loaded
    cases result with
    | error e => exact congrArg KeyHealth.limiter loaded
    | ok =>
      have added := pool.addKeysSync_health keys st'
      exact congrArg KeyHealth.limiter ((thenPersist_health _).trans (added.trans loaded))
  | setKeys keys =>
    left
    have added := pool.addKeysSync_health keys { st with keysMap := .empty }
    simp only [step, setKeys]
    revert added
    rcases pool.addKeysSync keys { st with keysMap := .empty } with ⟨result, st'⟩
    intro added
    cases result with
    | error e => exact congrArg KeyHealth.limiter added
    | ok => exact congrArg KeyHealth.limiter added
  | removeKey id db =>
    left
    have loaded := pool.ensureLoaded_health st db
    simp only [step, removeKey]
    revert loaded
    rcases pool.ensureLoaded st db with ⟨result, st'⟩
    intro loaded
    cases result with
    | error e => exact congrArg KeyHealth.limiter loaded
    | ok =>
      simp only
      split
      · exact congrArg KeyHealth.limiter loaded
      · exact congrArg KeyHealth.limiter loaded
  | clearKeys => exact Or.inl rfl
  | clearMemoryCache db =>
    right
    exact congrArg KeyHealth.limiter (pool.ensureLoaded_health (clearMemoryCache st) db)

/-! ## Reports and dispatches -/

omit [Host] in
theorem reportOn_cases (st : State) (id : String) (db : Option (List KeyRow))
    (report : State → State) :
    (∃ e st', pool.reportOn st id db report = (.error e, st') ∧
      st'.selector.health = st.selector.health) ∨
    ∃ st', pool.reportOn st id db report = (.ok (), report st') ∧
      st'.selector.health = st.selector.health := by
  have loaded := pool.ensureLoaded_health st db
  unfold reportOn
  split
  · exact Or.inl ⟨_, st, rfl, rfl⟩
  revert loaded
  rcases pool.ensureLoaded st db with ⟨result, st'⟩
  intro loaded
  cases result with
  | error e => exact Or.inl ⟨e, st', rfl, loaded⟩
  | ok =>
    simp only
    split
    · exact Or.inr ⟨st', rfl, loaded⟩
    · exact Or.inl ⟨_, st', rfl, loaded⟩

theorem getKey_keeps {P : RateLimiter.Store → Prop} {now : Int}
    (kept : KeptByReads (some pool.rateLimiter) now P) (st : State) (provider : String)
    (draw : Nat) (db : Option (List KeyRow)) (before : P st.selector.health.limiter) :
    P (pool.getKey st provider now draw db).2.selector.health.limiter := by
  have loaded := congrArg KeyHealth.limiter (pool.ensureLoaded_health st db)
  unfold getKey
  split
  · exact before
  revert loaded
  rcases pool.ensureLoaded st db with ⟨result, st'⟩
  intro loaded
  cases result with
  | error e => exact loaded ▸ before
  | ok =>
    have selected := pool.keySelector.selectKey_keeps kept st'.selector provider {} draw
      (loaded ▸ before)
    simp only
    split
    · exact selected
    · exact selected
    · exact selected

/-- The limiter allowed a dispatched key. -/
theorem getKey_allowed {st st' : State} {provider id : String} {now : Int} {draw : Nat}
    {db : Option (List KeyRow)} (dispatched : pool.getKey st provider now draw db = (.ok id, st')) :
    (pool.rateLimiter.evaluate (pool.rateLimiter.view st.selector.health.limiter id now) now
      0).allowed = true := by
  have loaded := congrArg KeyHealth.limiter (pool.ensureLoaded_health st db)
  unfold getKey at dispatched
  split at dispatched
  · cases dispatched
  revert dispatched loaded
  rcases pool.ensureLoaded st db with ⟨result, st''⟩
  intro loaded
  cases result with
  | error e => intro failed; cases failed
  | ok =>
    simp only
    split
    · rename_i key selected
      rintro ⟨⟩
      have healthy := (List.mem_filter.mp (pool.keySelector.selectKey_offered selected)).2
      rw [KeySelector.isHealthy, verdict_isHealthy_iff] at healthy
      have allowed := (limiterFinding_eq_none _ rfl key st''.selector.health).mp healthy.2.2
      rw [← loaded]
      exact allowed
    · intro failed; cases failed
    · intro failed; cases failed

/-! ## The invariant -/

omit [Host] in
/-- Answering a dispatch of one key weighs no more than the usage it records. -/
theorem sumAfter_answer {outstanding : List Increment} {now : Int}
    (past : ∀ d ∈ outstanding, d.timestamp ≤ now) (keyId id : String) (cutoff : Int) :
    Increment.gauge.sumAfter cutoff (historyOf outstanding id) ≤
      Increment.gauge.sumAfter cutoff
        (historyOf (outstanding.eraseP fun d => d.keyId = keyId) id) +
      Increment.gauge.sumAfter cutoff (if keyId = id then [⟨keyId, now⟩] else []) := by
  rcases List.exists_or_eq_self_of_eraseP (fun d : Increment => decide (d.keyId = keyId))
    outstanding with same | ⟨d, older, newer, -, of, split, erased⟩
  · rw [same]
    exact Nat.le_add_right _ _
  · have early := past d (split ▸ List.mem_append_right _ List.mem_cons_self)
    have key : d.keyId = keyId := of_decide_eq_true of
    rw [erased, split]
    simp only [historyOf, Gauge.sumAfter, List.filter_append, List.filter_cons, key,
      Gauge.total_append]
    by_cases this : keyId = id
    · by_cases fresh : cutoff < d.timestamp
      · have recorded : cutoff < now := by omega
        simp only [this, decide_true, ↓reduceIte, Gauge.total_cons, Gauge.total_nil,
          Increment.gauge, fresh, recorded]
        omega
      · simp only [this, decide_true, ↓reduceIte, Gauge.total_cons, Gauge.total_nil,
          Increment.gauge, fresh, decide_false, Bool.false_eq_true]
        omega
    · simp [this]

/-- The counters hold the recorded usage, and after every cutoff the dispatches of a
key are covered by its usage and its unreported dispatches. -/
structure Accounted (t : Traffic) : Prop where
  tracks : pool.rateLimiter.Tracks t.clock t.st.selector.health.limiter t.recorded
  past : ∀ d ∈ t.outstanding, d.timestamp ≤ t.clock
  covered : ∀ id cutoff, Increment.gauge.sumAfter cutoff (historyOf t.dispatched id) ≤
    Increment.gauge.sumAfter cutoff (historyOf t.recorded id) +
      Increment.gauge.sumAfter cutoff (historyOf t.outstanding id)
  rpm : ∀ id, Increment.gauge.Bounded pool.rateLimiter.windowSizeMs pool.rateLimiter.rpmLimit
    (historyOf t.dispatched id)
  rpd : ∀ id, Increment.gauge.Bounded pool.rateLimiter.dayWindowMs pool.rateLimiter.rpdLimit
    (historyOf t.dispatched id)

variable {pool}

omit [Host] in
theorem Accounted.later {t : Traffic} {now : Int} (accounted : Accounted pool t)
    (le : t.clock ≤ now) : Accounted pool { t with clock := now } where
  tracks := accounted.tracks.later le
  past d mem := (accounted.past d mem).trans le
  covered := accounted.covered
  rpm := accounted.rpm
  rpd := accounted.rpd

omit [Host] in
/-- Only the counters of the pool matter. -/
theorem Accounted.of_limiter {t : Traffic} {st : State} (accounted : Accounted pool t)
    (same : st.selector.health.limiter = t.st.selector.health.limiter) :
    Accounted pool { t with st } where
  tracks := by
    have before := accounted.tracks
    rw [← same] at before
    exact before
  past := accounted.past
  covered := accounted.covered
  rpm := accounted.rpm
  rpd := accounted.rpd

theorem Accounted.select {t : Traffic} (accounted : Accounted pool t) (provider : String)
    (draw : Nat) (db : Option (List KeyRow)) :
    Accounted pool { t with st := (pool.getKey t.st provider t.clock draw db).2 } where
  tracks := by
    have kept : KeptByReads (some pool.rateLimiter) t.clock
        (fun s => pool.rateLimiter.Tracks t.clock s t.recorded) := by
      rintro r ⟨⟩ s keyId tracks
      exact tracks.read keyId
    exact pool.getKey_keeps kept t.st provider draw db accounted.tracks
  past := accounted.past
  covered := accounted.covered
  rpm := accounted.rpm
  rpd := accounted.rpd

omit [Host] in
/-- Room beside the unreported dispatches of a window is room in the dispatch history. -/
theorem Accounted.room {t : Traffic} (accounted : Accounted pool t) {id : String} {width : Int}
    {limit : Nat}
    (spaced : Increment.gauge.sumAfter (t.clock - width) (historyOf t.recorded id) +
      admitted t.outstanding id (t.clock - width) t.clock < limit) :
    Increment.gauge.sumAfter (t.clock - width) (historyOf t.dispatched id) + 1 ≤ limit := by
  have past : ∀ d ∈ historyOf t.outstanding id, Increment.gauge.time d ≤ t.clock := by
    intro d mem
    exact accounted.past d (List.mem_filter.mp mem).1
  have covered := accounted.covered id (t.clock - width)
  rw [admitted_eq, Gauge.windowSum_eq_sumAfter _ past] at spaced
  omega

omit [Host] in
/-- A dispatch the history has room for keeps everything accounted for. -/
theorem Accounted.dispatch {t : Traffic} (accounted : Accounted pool t) {id : String}
    (rpm : Increment.gauge.sumAfter (t.clock - pool.rateLimiter.windowSizeMs)
      (historyOf t.dispatched id) + 1 ≤ pool.rateLimiter.rpmLimit)
    (rpd : Increment.gauge.sumAfter (t.clock - pool.rateLimiter.dayWindowMs)
      (historyOf t.dispatched id) + 1 ≤ pool.rateLimiter.rpdLimit) :
    Accounted pool { t with
      dispatched := t.dispatched ++ [⟨id, t.clock⟩]
      outstanding := t.outstanding ++ [⟨id, t.clock⟩] } where
  tracks := accounted.tracks
  past := by
    intro d mem
    rcases List.mem_append.mp mem with mem | mem
    · exact accounted.past d mem
    · rw [List.mem_singleton.mp mem]
  covered := by
    intro other cutoff
    have before := accounted.covered other cutoff
    simp only [historyOf_snoc, Gauge.sumAfter, Gauge.total_append] at before ⊢
    omega
  rpm := bounded_snoc accounted.rpm rpm
  rpd := bounded_snoc accounted.rpd rpd

omit [Host] in
/-- A recorded usage answers the dispatch it reports. -/
theorem Accounted.report {t : Traffic} (accounted : Accounted pool t) (id : String) (cost : Int)
    {st : State} (counted : st.selector.health.limiter =
      pool.rateLimiter.increment t.st.selector.health.limiter (some id) cost t.clock) :
    Accounted pool { t with
      st
      outstanding := t.outstanding.eraseP fun d => d.keyId = id
      recorded := t.recorded ++ [⟨id, t.clock⟩] } where
  tracks := by
    simp only [counted]
    exact accounted.tracks.increment (some id) cost
  past := by
    intro d mem
    exact accounted.past d (List.mem_of_mem_eraseP mem)
  covered := by
    intro other cutoff
    have before := accounted.covered other cutoff
    have answered := sumAfter_answer accounted.past id other cutoff
    simp only [historyOf_snoc, Gauge.sumAfter, Gauge.total_append] at before answered ⊢
    omega
  rpm := accounted.rpm
  rpd := accounted.rpd

theorem serve_accounted (nested : pool.rateLimiter.windowSizeMs ≤ pool.rateLimiter.dayWindowMs)
    (t : Traffic) (rpc : Rpc) (accounted : Accounted pool t) (spaced : pool.Spaced t rpc) :
    Accounted pool (pool.serve t rpc) := by
  cases rpc with
  | getKey provider now draw db =>
    obtain ⟨le, room⟩ := spaced
    have later := accounted.later le
    have selected := later.select provider draw db
    simp only [serve]
    cases called : pool.getKey t.st provider now draw db with
    | mk result st =>
      rw [show pool.getKey _ provider _ draw db = (result, st) from called] at selected
      cases result with
      | error e => exact selected
      | ok id =>
        have faithful := later.tracks.view id
        obtain ⟨rpm, rpd⟩ := room id (pool.getKey_allowed called)
        have rpmRecorded := faithful.rpm nested
        have rpdRecorded := faithful.rpd
        simp only at rpmRecorded rpdRecorded
        rw [rpmRecorded] at rpm
        rw [rpdRecorded] at rpd
        exact selected.dispatch (selected.room rpm) (selected.room rpd)
  | recordUsage id cost now db =>
    have later := accounted.later spaced
    simp only [serve, recordUsage]
    rcases pool.reportOn_cases t.st id db (fun st =>
        let st := mapLimiter st fun s => pool.rateLimiter.increment s (some id) cost now
        { st with selector := KeySelector.recordUsage st.selector id }) with
      ⟨e, st', refused, same⟩ | ⟨st', taken, same⟩
    · rw [refused]
      exact later.of_limiter (congrArg KeyHealth.limiter same)
    · rw [taken]
      refine later.report id cost ?_
      simp only [mapLimiter, KeySelector.recordUsage, same]
  | recordResult id success now db =>
    have later := accounted.later spaced
    simp only [serve, recordResult]
    rcases pool.reportOn_cases t.st id db (fun st =>
        mapBreaker st fun s => pool.circuitBreaker.recordResult s id success now) with
      ⟨e, st', refused, same⟩ | ⟨st', taken, same⟩
    · rw [refused]
      exact later.of_limiter (congrArg KeyHealth.limiter same)
    · have limiter : st'.selector.health.limiter = t.st.selector.health.limiter :=
        congrArg KeyHealth.limiter same
      rw [taken]
      exact later.of_limiter limiter
  | manage op =>
    rcases pool.step_limiter t.st op with same | evicted
    · exact accounted.of_limiter same
    · refine ⟨?_, accounted.past, accounted.covered, accounted.rpm, accounted.rpd⟩
      simp only [serve, evicted]
      exact accounted.tracks.evict

variable (pool)

/-- When every call leaves room for the unreported dispatches, no window of the
limiter ever holds more dispatches of a key than its limit, whatever the order in
which dispatches, reports and other calls interleave. -/
theorem dispatch_bounded (nested : pool.rateLimiter.windowSizeMs ≤ pool.rateLimiter.dayWindowMs)
    (clock : Int) (rpcs : List Rpc)
    (spaced : Transition.Guarded pool.serve pool.Spaced (.start pool clock) rpcs) :
    ∀ t ∈ Transition.reached pool.serve (.start pool clock) rpcs, ∀ id now,
      admitted t.dispatched id (now - pool.rateLimiter.windowSizeMs) now ≤
        pool.rateLimiter.rpmLimit ∧
      admitted t.dispatched id (now - pool.rateLimiter.dayWindowMs) now ≤
        pool.rateLimiter.rpdLimit := by
  intro t reached id now
  have start : Accounted pool (.start pool clock) :=
    { tracks := .empty clock
      past := fun _ absent => absurd absent List.not_mem_nil
      covered := fun _ _ => Nat.zero_le _
      rpm := fun _ => Gauge.Bounded.nil _ _
      rpd := fun _ => Gauge.Bounded.nil _ _ }
  have accounted := Transition.invariant_of_guarded (serve_accounted nested) start spaced t reached
  rw [admitted_eq, admitted_eq]
  exact ⟨accounted.rpm id now, accounted.rpd id now⟩

end Interleavings

section Examples

attribute [local instance] asciiHost

/-- A pool whose limiter allows one request a minute. -/
def slowPool : KeyPool := ⟨"0a1b", "acme", .create {}, .create { rpmLimit := some 1 }⟩

theorem dispatch_bounded_slow :
    admitted ([.manage (.addKey (groqKey "k1") none), .getKey "groq" 0 0 none,
      .recordUsage "k1" 5 0 none].foldl slowPool.serve (.start slowPool 0)).dispatched
      "k1" (10 - 60000) 10 ≤ 1 := by
  have spaced : Transition.Guarded slowPool.serve slowPool.Spaced (.start slowPool 0)
      [.manage (.addKey (groqKey "k1") none), .getKey "groq" 0 0 none,
        .recordUsage "k1" 5 0 none] := by
    refine ⟨trivial, ⟨by decide, fun _ _ => ⟨?_, ?_⟩⟩, ?_, trivial⟩
    · exact Nat.zero_lt_one
    · exact Nat.zero_lt_succ 1499
    · simp only [Spaced]
      decide
  exact (slowPool.dispatch_bounded (by decide) 0 _ spaced _
    (Transition.foldl_mem_reached _ _ _) "k1" 10).1

/-- Two clients are given the same key a millisecond apart, before either reports:
twice the limit of a minute. -/
theorem two_dispatches_before_report :
    ∃ t ∈ Transition.reached slowPool.serve (.start slowPool 0)
        [.manage (.addKey (groqKey "k1") none), .getKey "groq" 0 0 none, .getKey "groq" 1 0 none],
      slowPool.rateLimiter.rpmLimit <
        admitted t.dispatched "k1" (1 - slowPool.rateLimiter.windowSizeMs) 1 :=
  ⟨_, Transition.foldl_mem_reached _ _ _, by decide⟩

end Examples

end KeyCollective.KeyPool
