import KeyCollective.Lib.Transition
import KeyCollective.Router.Attempts

/-!
# Breaker accounting

A run of cascaded requests is compared with feeding each attempt's outcome once to the
breaker; `CountedOnce` says when one attempt comes to the same.
-/

namespace KeyCollective

section Attempts

variable [Host]

namespace Attempt

open KeyPool

/-! ## Counting an attempt once -/

variable (router : CascadeRouter) (attempt : Attempt) (pool : KeyPool)
  (db : Option (List KeyRow))

/-- The code: every report of the attempt, taken by the pool as it is made. -/
def serve (st : State) : State :=
  let st := pool.recordAll db attempt.round.now st (attempt.executed router).1.reports
  match attempt.round.streamEnd with
  | some later => pool.recordAll db later st (attempt.later router)
  | none => st

/-- The reference: the attempt's outcome, fed once. -/
def refer (st : State) : State :=
  pool.feed db attempt.round.now st (attempt.outcome router)

/-- The router leaves the failure of an exchange to the client: the attempt is not on a key
it took from the pool, or the caller has gone. -/
def RouterSilent (abort : Bool) (id : String) : Prop :=
  attempt.keyId = some id → (abort || attempt.round.abortedAfter) = true

/-- A stream that has answered is counted once on the key: by the router, and by the client
only where that changes nothing; or by the client alone, at its end. -/
def StreamedOnce (data : CircuitBreakerData) (id : String) : Prop :=
  match attempt.round.streamEnd with
  | some later =>
    if attempt.keyId = some id then
      (data.evaluateCooldown attempt.round.now pool.circuitBreaker.cooldownMs).Closing
        pool.circuitBreaker.halfOpenSuccessThreshold
    else
      data.evaluateCooldown later pool.circuitBreaker.cooldownMs =
        data.evaluateCooldown attempt.round.now pool.circuitBreaker.cooldownMs
  | none => attempt.keyId = some id ∨ data.Calm

/-- A response is counted once on the key it was dispatched on: its status is not neutral,
and only one of the client and the router counts it, unless the second success changes
nothing. -/
def ResponseOnce (data : CircuitBreakerData) (id : String)
    (response : HttpResponse) : Prop :=
  if response.ok = false then
    response.status ∈ pool.circuitBreaker.trippingStatusCodes ∧ attempt.RouterSilent false id
  else
    response.status ∉ pool.circuitBreaker.trippingStatusCodes ∧
    if UpstreamClient.streams attempt.upstreamRequest response ∧ response.hasBody = false then
      attempt.RouterSilent false id ∧ data.Calm
    else if attempt.request.stream then attempt.StreamedOnce pool data id
    else match response.json with
      | .error failure => attempt.RouterSilent (failure.name = "AbortError") id ∧
        -- The client counts no stream that breaks off.
        (UpstreamClient.BreaksOff attempt.upstreamRequest response → data.Calm)
      | .ok _ => attempt.keyId = some id →
        (data.evaluateCooldown attempt.round.now pool.circuitBreaker.cooldownMs).Closing
          pool.circuitBreaker.halfOpenSuccessThreshold

/-- The attempt's reports on a key the pool holds come to its outcome fed once. -/
def CountedOnce (keysMap : KeysMap) (st : State) : Prop :=
  ∀ id, tracked keysMap id = true →
    match router.upstreamClient.dispatch attempt.upstreamRequest attempt.round.exchange with
    | .error failure => attempt.RouterSilent failure.isAbort id
    | .ok (keyId, fetch) => keyId = some id → match fetch with
      | .failed _ => attempt.RouterSilent false id
      | .responded response => attempt.ResponseOnce pool (pool.breakerOf st id) id response

/-- What results at the attempt's own instant and at its stream's end make of a breaker. -/
def settle (data : CircuitBreakerData) (first last : List Bool) :
    CircuitBreakerData :=
  let data := first.foldl (pool.circuitBreaker.applyResult attempt.round.now) data
  match attempt.round.streamEnd with
  | some later => last.foldl (pool.circuitBreaker.applyResult later) data
  | none => data

variable {router attempt pool db} {keysMap : KeysMap} {st : State} {id : String}
  {keyId : Option String} {response : HttpResponse}

theorem serve_holds (holds : Holds keysMap st) :
    Holds keysMap (attempt.serve router pool db st) ∧ ∀ {id : String} {first last : List Bool},
      attempt.Results router id first last →
        pool.breakerOf (attempt.serve router pool db st) id =
          attempt.settle pool (pool.breakerOf st id) (taken keysMap id first)
            (taken keysMap id last) := by
  obtain ⟨kept, moved⟩ := @recordAll_holds pool db _ _ holds attempt.round.now
    (attempt.executed router).1.reports
  unfold serve settle
  cases attempt.round.streamEnd with
  | none =>
    refine ⟨kept, ?_⟩
    rintro id first last ⟨rfl, -⟩
    exact moved id
  | some later =>
    obtain ⟨keptLater, movedLater⟩ := @recordAll_holds pool db _ _ kept later
      (attempt.later router)
    refine ⟨keptLater, ?_⟩
    rintro id first last ⟨rfl, rfl⟩
    exact (movedLater id).trans (by rw [moved id])

omit [Host] in
theorem settle_nil (data : CircuitBreakerData) (first : List Bool) :
    attempt.settle pool data first [] =
      first.foldl (pool.circuitBreaker.applyResult attempt.round.now) data := by
  unfold settle
  cases attempt.round.streamEnd <;> rfl

/-- The reference's results on a key, of an attempt that was sent. -/
theorem verdictOn_outcome {fetch : FetchOutcome} (named : id ≠ "")
    (sent : router.upstreamClient.dispatch attempt.upstreamRequest attempt.round.exchange =
      .ok (keyId, fetch)) :
    pool.verdictOn id (attempt.outcome router) =
      if keyId = some id then match fetch with
        | .failed _ => [false]
        | .responded response => pool.circuitBreaker.verdict response.status
      else [] := by
  unfold outcome
  rw [sent]
  cases keyId with
  | none => rfl
  | some key =>
    by_cases empty : key = ""
    · have other : key ≠ id := fun same => named (same ▸ empty)
      simp [Option.filter, empty, named.symm, verdictOn]
    · have kept : (some key).filter (· ≠ "") = some key := by simp [empty]
      simp only [kept, Option.map_some, Option.some.injEq]
      cases fetch with
      | failed timedOut => rfl
      | responded response => rfl

omit [Host] in
theorem verdict_accepted {response : HttpResponse} (accepted : response.ok = true)
    (kept : response.status ∉ pool.circuitBreaker.trippingStatusCodes) :
    pool.circuitBreaker.verdict response.status = [true] := by
  have range : 200 ≤ response.status ∧ response.status < 300 := by
    simp only [HttpResponse.ok, decide_eq_true_eq] at accepted
    omega
  rw [CircuitBreaker.verdict, if_neg kept, if_pos range]

omit [Host] in
/-- A silent router adds nothing to what the client counts. -/
theorem routerFailure_silent {abort : Bool} (silent : attempt.RouterSilent abort id) :
    attempt.routerFailure abort id = [] := by
  unfold routerFailure routerResults
  by_cases routed : attempt.keyId = some id
  · rw [if_pos (silent routed)]
  · rw [if_neg routed, ite_self]

omit [Host] in
theorem routerResults_other (other : attempt.keyId ≠ some id) (success : Bool) :
    attempt.routerResults id success = [] := if_neg other

omit [Host] in
theorem routerFailure_other (other : attempt.keyId ≠ some id) (abort : Bool) :
    attempt.routerFailure abort id = [] := by
  rw [routerFailure, routerResults_other other, ite_self]

omit [Host] in
/-- A stream that is counted once. -/
theorem settle_streamed {data : CircuitBreakerData}
    (once : attempt.StreamedOnce pool data id) :
    (attempt.settle pool data (attempt.routerResults id true) [true]).core =
      (pool.circuitBreaker.applyResult attempt.round.now data true).core := by
  unfold StreamedOnce at once
  unfold settle routerResults
  cases streamEnd : attempt.round.streamEnd with
  | none =>
    rw [streamEnd] at once
    rcases once with routed | calm
    · rw [if_pos routed]
      rfl
    · by_cases routed : attempt.keyId = some id
      · rw [if_pos routed]
        rfl
      · rw [if_neg routed]
        exact (pool.circuitBreaker.core_applyResult_calm calm _).symm
  | some later =>
    rw [streamEnd] at once
    by_cases routed : attempt.keyId = some id
    · simp only [routed, ↓reduceIte] at once
      rw [if_pos routed]
      exact pool.circuitBreaker.core_applyResult_twice once later
    · simp only [routed, ↓reduceIte] at once
      rw [if_neg routed]
      simp only [List.foldl_nil, List.foldl_cons, CircuitBreaker.applyResult, once, ↓reduceIte]
      exact CircuitBreakerData.core_applySuccess_now _ _ _ _

variable (costed : router.upstreamClient.Costed) (pooled : router.hasKeyPool = true)
  (client : router.upstreamClient.hasKeyPool = true) (named : id ≠ "")

include pooled named client costed in
/-- A response counted once moves its key's breaker as its status fed once. -/
theorem response_once {data : CircuitBreakerData}
    (sent : router.upstreamClient.dispatch attempt.upstreamRequest attempt.round.exchange =
      .ok (some id, .responded response))
    (once : attempt.ResponseOnce pool data id response) :
    ∃ first last, attempt.Results router id first last ∧
      (attempt.settle pool data first last).core =
        ((pool.circuitBreaker.verdict response.status).foldl
          (pool.circuitBreaker.applyResult attempt.round.now) data).core := by
  unfold ResponseOnce at once
  have mine : ∀ success, clientResults (some id) id success = [success] :=
    fun success => if_pos rfl
  cases accepted : response.ok with
  | false =>
    rw [if_pos accepted] at once
    obtain ⟨tripping, silent⟩ := once
    refine ⟨_, _, results_rejected pooled named client sent accepted, ?_⟩
    rw [settle_nil, mine, routerFailure_silent silent, List.append_nil, CircuitBreaker.verdict,
      if_pos tripping]
  | true =>
    have notRejected : ¬ response.ok = false := by simp [accepted]
    rw [if_neg notRejected] at once
    obtain ⟨kept, once⟩ := once
    rw [verdict_accepted accepted kept]
    by_cases bodyless : UpstreamClient.streams attempt.upstreamRequest response ∧
        response.hasBody = false
    · rw [if_pos bodyless] at once
      obtain ⟨silent, calm⟩ := once
      refine ⟨_, _, results_bodyless pooled named sent accepted bodyless.1 bodyless.2, ?_⟩
      rw [settle_nil, routerFailure_silent silent]
      exact (pool.circuitBreaker.core_applyResult_calm calm _).symm
    · rw [if_neg bodyless] at once
      have body : UpstreamClient.streams attempt.upstreamRequest response →
          response.hasBody = true := by
        intro streamed
        by_contra empty
        exact bodyless ⟨streamed, by simpa using empty⟩
      cases stream : attempt.request.stream with
      | true =>
        rw [if_pos stream] at once
        refine ⟨_, _, results_streamed pooled named client sent accepted stream
          (body (Or.inl stream)), ?_⟩
        rw [mine]
        exact settle_streamed once
      | false =>
        have plain : ¬ attempt.request.stream = true := by simp [stream]
        rw [if_neg plain] at once
        have results := results_plain pooled named costed client sent accepted stream body
        refine ⟨_, _, results, ?_⟩
        rw [settle_nil, mine]
        cases parsed : response.json with
        | error failure =>
          rw [parsed] at once
          obtain ⟨silent, calm⟩ := once
          simp only [routerFailure_silent silent, List.append_nil]
          by_cases breaks : UpstreamClient.BreaksOff attempt.upstreamRequest response
          · rw [if_pos breaks]
            exact (pool.circuitBreaker.core_applyResult_calm (calm breaks) _).symm
          · rw [if_neg breaks]
        | ok update =>
          rw [parsed] at once
          have whole : ¬ UpstreamClient.BreaksOff attempt.upstreamRequest response :=
            fun breaks => by simp [UpstreamClient.BreaksOff, HttpResponse.breaksOff, parsed] at breaks
          simp only [routerResults, if_neg whole]
          by_cases routed : attempt.keyId = some id
          · rw [if_pos routed]
            exact pool.circuitBreaker.core_applyResult_twice (once routed) attempt.round.now
          · rw [if_neg routed, List.append_nil]

include pooled named client costed in
/-- An attempt sent on another key says nothing about this one. -/
theorem results_elsewhere {fetch : FetchOutcome}
    (sent : router.upstreamClient.dispatch attempt.upstreamRequest attempt.round.exchange =
      .ok (keyId, fetch)) (elsewhere : keyId ≠ some id) :
    attempt.Results router id [] [] := by
  have other : attempt.keyId ≠ some id :=
    fun routed => elsewhere (UpstreamClient.dispatch_keyId routed sent)
  have silent : ∀ success, clientResults keyId id success = [] :=
    fun success => if_neg elsewhere
  have failure := @routerFailure_other attempt id other
  have routed := @routerResults_other attempt id other
  cases fetch with
  | failed timedOut =>
    have results := results_failed pooled named client sent
    rwa [silent, failure] at results
  | responded response =>
    cases accepted : response.ok with
    | false =>
      have results := results_rejected pooled named client sent accepted
      rwa [silent, failure] at results
    | true =>
      by_cases bodyless : UpstreamClient.streams attempt.upstreamRequest response ∧
          response.hasBody = false
      · have results := results_bodyless pooled named sent accepted bodyless.1 bodyless.2
        rwa [failure] at results
      · have body : UpstreamClient.streams attempt.upstreamRequest response →
            response.hasBody = true := by
          intro streamed
          by_contra empty
          exact bodyless ⟨streamed, by simpa using empty⟩
        cases stream : attempt.request.stream with
        | true =>
          have results := results_streamed pooled named client sent accepted stream
            (body (Or.inl stream))
          rwa [silent, routed] at results
        | false =>
          have results := results_plain pooled named costed client sent accepted stream body
          rw [silent, ite_self] at results
          cases parsed : response.json with
          | error broken =>
            rw [parsed] at results
            simpa only [failure, List.append_nil] using results
          | ok update =>
            rw [parsed] at results
            simpa only [routed, List.append_nil] using results

include pooled named client costed in
/-- An attempt counted once moves every breaker as its outcome fed once. -/
theorem attempt_once (once : attempt.CountedOnce router pool keysMap st)
    (held : tracked keysMap id = true) :
    ∃ first last, attempt.Results router id first last ∧
      (attempt.settle pool (pool.breakerOf st id) first last).core =
        ((pool.verdictOn id (attempt.outcome router)).foldl
          (pool.circuitBreaker.applyResult attempt.round.now) (pool.breakerOf st id)).core := by
  have here := once id held
  cases dispatched : router.upstreamClient.dispatch attempt.upstreamRequest
      attempt.round.exchange with
  | error failure =>
    rw [dispatched] at here
    refine ⟨_, _, results_unsent pooled named dispatched, ?_⟩
    rw [settle_nil, routerFailure_silent here, outcome, dispatched]
    rfl
  | ok pair =>
    obtain ⟨keyId, fetch⟩ := pair
    rw [dispatched] at here
    rw [verdictOn_outcome named dispatched]
    by_cases mine : keyId = some id
    · subst mine
      have counted := here rfl
      rw [if_pos rfl]
      cases fetch with
      | failed timedOut =>
        refine ⟨_, _, results_failed pooled named client dispatched, ?_⟩
        rw [settle_nil, routerFailure_silent counted, List.append_nil, clientResults, if_pos rfl]
      | responded response => exact response_once costed pooled client named dispatched counted
    · refine ⟨[], [], results_elsewhere costed pooled client named dispatched mine, ?_⟩
      rw [if_neg mine, settle_nil]

/-- The code's pool and the reference's: the same keys, and breakers that decide alike. -/
structure Agree (pool : KeyPool) (keysMap : KeysMap) (states : State × State) : Prop where
  code : Holds keysMap states.1
  reference : Holds keysMap states.2
  core : ∀ id, (pool.breakerOf states.1 id).core = (pool.breakerOf states.2 id).core

variable (router pool db) in
/-- Both take an attempt. -/
def step (states : State × State) (attempt : Attempt) : State × State :=
  (attempt.serve router pool db states.1, attempt.refer router pool db states.2)

variable (router pool keysMap) in
def Once (states : State × State) (attempt : Attempt) : Prop :=
  attempt.CountedOnce router pool keysMap states.1

omit named in
include pooled client costed in
theorem step_agrees (states : State × State) (attempt : Attempt)
    (agree : Agree pool keysMap states) (once : Once router pool keysMap states attempt) :
    Agree pool keysMap (step router pool db states attempt) := by
  obtain ⟨served, servedData⟩ :=
    @serve_holds _ router attempt pool db keysMap states.1 agree.code
  obtain ⟨fed, fedData⟩ :=
    @feed_holds pool db keysMap states.2 agree.reference attempt.round.now (attempt.outcome router)
  refine ⟨served, fed, fun id => ?_⟩
  have reference : pool.breakerOf (attempt.refer router pool db states.2) id = _ := fedData id
  by_cases held : tracked keysMap id = true
  · have named : id ≠ "" := by
      rintro rfl
      cases held
    obtain ⟨first, last, results, same⟩ := attempt_once costed pooled client named once held
    have code := servedData results
    simp only [taken, held, ↓reduceIte] at code reference
    calc (pool.breakerOf (attempt.serve router pool db states.1) id).core
        = (attempt.settle pool (pool.breakerOf states.1 id) first last).core := by rw [code]
      _ = ((pool.verdictOn id (attempt.outcome router)).foldl
            (pool.circuitBreaker.applyResult attempt.round.now)
            (pool.breakerOf states.1 id)).core := same
      _ = ((pool.verdictOn id (attempt.outcome router)).foldl
            (pool.circuitBreaker.applyResult attempt.round.now)
            (pool.breakerOf states.2 id)).core :=
          pool.circuitBreaker.core_foldl_applyResult (agree.core id) _ _
      _ = (pool.breakerOf (attempt.refer router pool db states.2) id).core := by rw [reference]
  · have code := @servedData id _ _ ⟨rfl, rfl⟩
    simp only [taken, held] at code reference
    calc (pool.breakerOf (attempt.serve router pool db states.1) id).core
        = (pool.breakerOf states.1 id).core := by
          rw [code]
          exact congrArg _ (settle_nil (pool.breakerOf states.1 id) [])
      _ = (pool.breakerOf states.2 id).core := agree.core id
      _ = (pool.breakerOf (attempt.refer router pool db states.2) id).core := by
          rw [reference]
          rfl

end Attempt

/-! ## Cascades -/

open KeyPool

/-- The attempts of a cascade, in order. -/
def CascadeRouter.attempts (router : CascadeRouter) (request : CascadeRouteRequest)
    (selfKeyRouted : Bool) : List (ModelDef × Round) → List FallbackAttempt → List Attempt
  | [], _ => []
  | (candidate, round) :: rest, before =>
    if round.abortedBefore then []
    else match router.acquireKey request round with
      | .error message =>
        router.attempts request selfKeyRouted rest
          (before ++ [⟨candidate.provider, candidate.id, .keyAcquisition message⟩])
      | .ok (keyId, apiKey) =>
        let attempt : Attempt :=
          { request, selfKeyRouted, before, candidate, round, keyId, apiKey }
        match (attempt.executed router).2 with
        | .failed failure =>
          attempt :: router.attempts request selfKeyRouted rest
            (before ++ [⟨candidate.provider, candidate.id, failure⟩])
        | _ => [attempt]

/-- The pool after a cascade: the reports of its rounds, each at the instant of the round,
and those made when the caller has read the answer's stream to its end. -/
def Cascade.record (pool : KeyPool) (db : Option (List KeyRow)) (stream : Bool) (st : State)
    (cascade : Cascade) : State :=
  let st := cascade.sent.foldl
    (fun st made => pool.recordAll db made.round.now st made.reports) st
  match cascade.outcome, cascade.sent.getLast? with
  | .ok response, some last =>
    match last.round.streamEnd with
    | some later =>
      pool.recordAll db later st (if stream then response.response.onDone else [])
    | none => st
  | _, _ => st

theorem CascadeRouter.executeRound_round (router : CascadeRouter) (request : CascadeRouteRequest)
    (selfKeyRouted : Bool) (before : List FallbackAttempt) (candidate : ModelDef) (round : Round)
    (keyId apiKey : Option String) :
    (router.executeRound request selfKeyRouted before candidate round keyId apiKey).1.round =
      round := by
  unfold executeRound
  rcases router.upstreamClient.chat (upstreamRequest request candidate keyId apiKey)
    round.exchange with ⟨reports, failure | chatRes⟩
  · simp only
    split
    · rfl
    · rfl
  · rfl

theorem Attempt.serve_quiet {router : CascadeRouter} {attempt : Attempt} (pool : KeyPool)
    (db : Option (List KeyRow)) (st : State) (quiet : attempt.later router = []) :
    attempt.serve router pool db st =
      pool.recordAll db attempt.round.now st (attempt.executed router).1.reports := by
  unfold serve
  rw [quiet]
  cases attempt.round.streamEnd <;> rfl

/-- The pool after a cascade is the pool after its attempts, one by one. -/
theorem Cascade.record_attempts (pool : KeyPool) (db : Option (List KeyRow))
    (router : CascadeRouter) (request : CascadeRouteRequest) (selfKeyRouted : Bool)
    (rest : List (ModelDef × Round)) (sent : List Sent) (before : List FallbackAttempt)
    (st : State) :
    (router.tryCandidates request selfKeyRouted rest sent before).record pool db request.stream
        st =
      (router.attempts request selfKeyRouted rest before).foldl
        (fun st attempt => attempt.serve router pool db st)
        (sent.foldl (fun st made => pool.recordAll db made.round.now st made.reports) st) := by
  induction rest generalizing sent before with
  | nil => rfl
  | cons head rest ih =>
    obtain ⟨candidate, round⟩ := head
    unfold CascadeRouter.tryCandidates CascadeRouter.attempts
    by_cases gone : round.abortedBefore = true
    · rw [if_pos gone, if_pos gone]
      rfl
    rw [if_neg gone, if_neg gone]
    cases acquired : router.acquireKey request round with
    | error message => exact ih sent _
    | ok pair =>
      obtain ⟨keyId, apiKey⟩ := pair
      simp only
      have executed : ({ request, selfKeyRouted, before, candidate, round, keyId, apiKey } :
          Attempt).executed router =
        router.executeRound request selfKeyRouted before candidate round keyId apiKey := rfl
      have sameRound :=
        router.executeRound_round request selfKeyRouted before candidate round keyId apiKey
      rw [executed]
      revert executed sameRound
      rcases router.executeRound request selfKeyRouted before candidate round keyId apiKey
        with ⟨made, response | failure | failure⟩
      · intro executed sameRound
        change made.round = round at sameRound
        simp only [List.foldl_cons, List.foldl_nil, Cascade.record, List.foldl_append,
          List.getLast?_concat, Attempt.serve, Attempt.later, executed, sameRound]
      · intro executed sameRound
        change made.round = round at sameRound
        rw [List.foldl_cons, List.foldl_nil, Attempt.serve_quiet]
        · simp only [Cascade.record, List.foldl_append, List.foldl_cons, List.foldl_nil, executed,
            sameRound]
        · simp only [Attempt.later, executed]
      · intro executed sameRound
        change made.round = round at sameRound
        rw [List.foldl_cons, Attempt.serve_quiet, ih]
        · simp only [List.foldl_append, List.foldl_cons, List.foldl_nil, executed, sameRound]
        · simp only [Attempt.later, executed]

/-! ## Runs of cascaded requests -/

/-- A request to the router, and what the outside does while it is routed. -/
structure CascadedRequest where
  request : CascadeRouteRequest
  selfKeyAvailable : Bool
  candidates : List (ModelDef × Round)

namespace CascadedRequest

variable (router : CascadeRouter) (pool : KeyPool) (db : Option (List KeyRow))

def selfKeyRouted (cascaded : CascadedRequest) : Bool :=
  !isFalsy cascaded.request.tenantId &&
    !(cascaded.candidates.take
      (1 + cascaded.request.maxFallbacks.getD router.maxFallbacks)).isEmpty &&
    cascaded.selfKeyAvailable

def attempts (cascaded : CascadedRequest) : List Attempt :=
  router.attempts cascaded.request (cascaded.selfKeyRouted router)
    (cascaded.candidates.take (1 + cascaded.request.maxFallbacks.getD router.maxFallbacks)) []

/-- The code, and beside it the reference: the outcome of each attempt fed once. -/
def step (states : State × State) (cascaded : CascadedRequest) : State × State :=
  ((router.executeCascadeRouting cascaded.request cascaded.selfKeyAvailable
      cascaded.candidates).record pool db cascaded.request.stream states.1,
    (cascaded.attempts router).foldl (fun st attempt => attempt.refer router pool db st) states.2)

/-- Every attempt of the request is counted once, in the state it meets. -/
def Once (keysMap : KeysMap) (states : State × State) (cascaded : CascadedRequest) : Prop :=
  Transition.Guarded (Attempt.step router pool db) (Attempt.Once router pool keysMap) states
    (cascaded.attempts router)

theorem step_eq (states : State × State) (cascaded : CascadedRequest) :
    step router pool db states cascaded =
      (cascaded.attempts router).foldl (Attempt.step router pool db) states := by
  have code := Cascade.record_attempts pool db router cascaded.request
    (cascaded.selfKeyRouted router)
    (cascaded.candidates.take (1 + cascaded.request.maxFallbacks.getD router.maxFallbacks)) []
    [] states.1
  have both : ∀ (attempts : List Attempt) (states : State × State),
      attempts.foldl (Attempt.step router pool db) states =
        (attempts.foldl (fun st attempt => attempt.serve router pool db st) states.1,
          attempts.foldl (fun st attempt => attempt.refer router pool db st) states.2) := by
    intro attempts
    induction attempts with
    | nil => exact fun _ => rfl
    | cons attempt rest ih => exact fun states => ih (Attempt.step router pool db states attempt)
  rw [both]
  exact Prod.ext code rfl

end CascadedRequest

variable {registry : ModelRegistry} {source : RouterSource}

theorem RouterSource.costed (source : RouterSource) :
    (source.router registry).upstreamClient.Costed := by
  intro calculate calculator model usage
  cases source with
  | resolver => cases calculator
  | default =>
    cases calculator
    rfl

theorem RouterSource.pooled (source : RouterSource) :
    (source.router registry).upstreamClient.hasKeyPool = true := by
  cases source <;> rfl

/-- In a run whose attempts are all counted once, every breaker decides in every state
reached as if each attempt's outcome had been fed to it once. -/
theorem breaker_refines (pool : KeyPool) (db : Option (List KeyRow)) (st : State)
    (loaded : st.isLoaded = true) (requests : List CascadedRequest)
    (once : Transition.Guarded (CascadedRequest.step (source.router registry) pool db)
      (CascadedRequest.Once (source.router registry) pool db st.keysMap) (st, st) requests) :
    ∀ states ∈ Transition.reached (CascadedRequest.step (source.router registry) pool db)
        (st, st) requests,
      ∀ id, (pool.breakerOf states.1 id).core = (pool.breakerOf states.2 id).core := by
  have start : Attempt.Agree pool st.keysMap (st, st) :=
    ⟨⟨loaded, rfl⟩, ⟨loaded, rfl⟩, fun _ => rfl⟩
  have keep : ∀ states cascaded, Attempt.Agree pool st.keysMap states →
      CascadedRequest.Once (source.router registry) pool db st.keysMap states cascaded →
      Attempt.Agree pool st.keysMap
        (CascadedRequest.step (source.router registry) pool db states cascaded) := by
    intro states cascaded agree once
    rw [CascadedRequest.step_eq]
    exact Transition.invariant_foldl
      (fun states attempt agree once =>
        Attempt.step_agrees source.costed rfl source.pooled states attempt agree once)
      agree once
  intro states reached
  exact (Transition.invariant_of_guarded keep start once states reached).core

end Attempts

section Examples

attribute [local instance] asciiHost

open KeyPool

def llama : ModelDef where
  id := "llama"
  provider := "groq"
  inputCostPerMTokMicro := 0
  outputCostPerMTokMicro := 0

/-- A request to `llama` on the key `k1`, answered with a status. -/
def answered (status : Nat) (abortedAfter : Bool) : CascadedRequest where
  request := { stream := false }
  selfKeyAvailable := false
  candidates :=
    [(llama,
      { acquired := .ok "k1"
        exchange := { resolvedKey := .ok "gsk_1", fetch := .responded { status } }
        abortedAfter })]

/-- The pool of `acme` with the key `k1`. -/
def k1Pool : State := (acmePool.addKey acmePool.start (groqKey "k1") none).2

/-- The two pools after a success and an aborted failure. -/
def afterAbort : State × State :=
  [answered 200 false, answered 500 true].foldl
    (CascadedRequest.step (RouterSource.resolver.router ⟨.empty, .empty⟩) acmePool none)
    (k1Pool, k1Pool)

theorem breaker_refines_answered :
    (acmePool.breakerOf afterAbort.1 "k1").core = (acmePool.breakerOf afterAbort.2 "k1").core := by
  have once : Transition.Guarded
      (CascadedRequest.step (RouterSource.resolver.router ⟨.empty, .empty⟩) acmePool none)
      (CascadedRequest.Once (RouterSource.resolver.router ⟨.empty, .empty⟩) acmePool none
        k1Pool.keysMap)
      (k1Pool, k1Pool) [answered 200 false, answered 500 true] := by
    refine ⟨⟨?_, trivial⟩, ⟨?_, trivial⟩, trivial⟩
    · intro id _ _
      exact ⟨by decide, fun _ _ => Nat.le_add_left _ _⟩
    · intro id _ _
      exact ⟨by decide, fun _ => rfl⟩
  exact breaker_refines acmePool none k1Pool rfl _ once _ (Transition.foldl_mem_reached _ _ _) "k1"

/-- Two server errors open a breaker that opens at the third failure, and a client error
counts as two failures. -/
theorem outcome_counted_twice :
    (∃ states ∈ Transition.reached
        (CascadedRequest.step (RouterSource.resolver.router ⟨.empty, .empty⟩) acmePool none)
        (k1Pool, k1Pool) [answered 500 false, answered 500 false],
      (acmePool.breakerOf states.1 "k1").core = (.open, 4, 0, some 0) ∧
      (acmePool.breakerOf states.2 "k1").core = (.closed, 2, 0, none)) ∧
    ∃ states ∈ Transition.reached
        (CascadedRequest.step (RouterSource.resolver.router ⟨.empty, .empty⟩) acmePool none)
        (k1Pool, k1Pool) [answered 400 false],
      (acmePool.breakerOf states.1 "k1").core = (.closed, 2, 0, none) ∧
      (acmePool.breakerOf states.2 "k1").core = (.closed, 0, 0, none) :=
  ⟨⟨_, Transition.foldl_mem_reached _ _ _, by decide, by decide⟩,
    ⟨_, Transition.foldl_mem_reached _ _ _, by decide, by decide⟩⟩

end Examples

end KeyCollective
