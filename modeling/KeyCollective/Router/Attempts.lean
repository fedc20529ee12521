import KeyCollective.Pool.Agreement
import KeyCollective.Router.Cascade

/-!
# The reports of an attempt

The client and the router both report on the key of an attempt. What a loaded pool makes
of reports is one fold over the results on each key; what an attempt reports follows from
what came of its exchange.
-/

namespace KeyCollective

/-! ## Reports on a loaded pool -/

namespace KeyPool

variable (pool : KeyPool) (db : Option (List KeyRow))

/-- A report as the pool receives it. The caller swallows its error. -/
def record (now : Int) (st : State) : PoolReport → State
  | .recordResult keyId success => (pool.recordResult st keyId success now db).2
  | .recordUsage keyId costMicrodollars => (pool.recordUsage st keyId costMicrodollars now db).2
  | .recordDispatch keyId isCommunal => KeyPool.recordDispatch st keyId isCommunal

def recordAll (now : Int) (st : State) (reports : List PoolReport) : State :=
  reports.foldl (pool.record db now) st

/-- What the pool keeps of a key's breaker. -/
def breakerOf (st : State) (id : String) : CircuitBreakerData :=
  pool.circuitBreaker.load st.selector.health.breaker id

/-- The pool has loaded itself, as it does before it gives a key out, and holds these keys. -/
structure Holds (keysMap : KeysMap) (st : State) : Prop where
  loaded : st.isLoaded = true
  keys : st.keysMap = keysMap

/-- A pool with these keys takes reports on the key. -/
def tracked (keysMap : KeysMap) (id : String) : Bool := !isBlank id && keysMap.has id

/-- The results on a key among the reports, in order. -/
def resultsOn (id : String) (reports : List PoolReport) : List Bool :=
  reports.filterMap fun
    | .recordResult keyId success => if keyId = id then some success else none
    | _ => none

/-- The results a pool with these keys takes. -/
def taken (keysMap : KeysMap) (id : String) (results : List Bool) : List Bool :=
  if tracked keysMap id then results else []

@[simp] theorem resultsOn_nil (id : String) : resultsOn id [] = [] := rfl

@[simp] theorem resultsOn_append (id : String) (xs ys : List PoolReport) :
    resultsOn id (xs ++ ys) = resultsOn id xs ++ resultsOn id ys :=
  List.filterMap_append

@[simp] theorem taken_nil (keysMap : KeysMap) (id : String) : taken keysMap id [] = [] :=
  ite_self []

@[simp] theorem taken_append (keysMap : KeysMap) (id : String) (xs ys : List Bool) :
    taken keysMap id (xs ++ ys) = taken keysMap id xs ++ taken keysMap id ys := by
  unfold taken
  split <;> rfl

variable {pool db} {keysMap : KeysMap} {st : State}

theorem reportOn_holds (holds : Holds keysMap st) (id : String) (report : State → State) :
    (pool.reportOn st id db report).2 = if tracked keysMap id then report st else st := by
  unfold reportOn tracked
  cases blank : isBlank id with
  | true => rfl
  | false =>
    simp only [Bool.false_eq_true, ↓reduceIte, pool.ensureLoaded_loaded holds.loaded, holds.keys]
    cases keysMap.has id <;> rfl

/-- A report on a key's breaker that counts as these results moves that breaker only. -/
theorem breaker_report (holds : Holds keysMap st) (keyId : String) (results : List Bool)
    (now : Int) {update : CircuitBreaker.Store → CircuitBreaker.Store}
    (moves : ∀ s id, pool.circuitBreaker.load (update s) id =
      if id = keyId then results.foldl (pool.circuitBreaker.applyResult now)
        (pool.circuitBreaker.load s id)
      else pool.circuitBreaker.load s id) :
    Holds keysMap (pool.reportOn st keyId db fun st => mapBreaker st update).2 ∧ ∀ id,
      pool.breakerOf (pool.reportOn st keyId db fun st => mapBreaker st update).2 id =
        (taken keysMap id (if keyId = id then results else [])).foldl
          (pool.circuitBreaker.applyResult now) (pool.breakerOf st id) := by
  rw [reportOn_holds holds]
  by_cases present : tracked keysMap keyId = true
  · rw [if_pos present]
    refine ⟨⟨holds.loaded, holds.keys⟩, fun id => ?_⟩
    have moved : pool.breakerOf (mapBreaker st update) id = _ :=
      moves st.selector.health.breaker id
    rw [moved]
    by_cases same : id = keyId
    · subst same
      rw [if_pos rfl, if_pos rfl, taken, if_pos present]
      rfl
    · rw [if_neg same, if_neg (Ne.symm same), taken_nil]
      rfl
  · rw [if_neg present]
    refine ⟨holds, fun id => ?_⟩
    by_cases same : keyId = id
    · subst same
      rw [taken, if_neg present]
      rfl
    · rw [if_neg same, taken_nil]
      rfl

theorem record_holds (holds : Holds keysMap st) (now : Int) (report : PoolReport) :
    Holds keysMap (pool.record db now st report) ∧ ∀ id,
      pool.breakerOf (pool.record db now st report) id =
        (taken keysMap id (resultsOn id [report])).foldl
          (pool.circuitBreaker.applyResult now) (pool.breakerOf st id) := by
  cases report with
  | recordResult keyId success =>
    have moves : ∀ s id,
        pool.circuitBreaker.load (pool.circuitBreaker.recordResult s keyId success now) id =
          if id = keyId then [success].foldl (pool.circuitBreaker.applyResult now)
            (pool.circuitBreaker.load s id)
          else pool.circuitBreaker.load s id :=
      fun s id => pool.circuitBreaker.load_recordResult s keyId success now id
    obtain ⟨kept, moved⟩ := breaker_report holds keyId [success] now moves
    refine ⟨kept, fun id => (moved id).trans ?_⟩
    by_cases same : keyId = id
    · simp [resultsOn, same]
    · simp [resultsOn, same]
  | recordUsage keyId cost =>
    simp only [record, recordUsage, reportOn_holds holds]
    have silent : ∀ id, taken keysMap id (resultsOn id [.recordUsage keyId cost]) = [] :=
      fun id => taken_nil keysMap id
    split
    · refine ⟨⟨holds.loaded, holds.keys⟩, fun id => ?_⟩
      rw [silent id]
      rfl
    · refine ⟨holds, fun id => ?_⟩
      rw [silent id]
      rfl
  | recordDispatch keyId isCommunal =>
    refine ⟨⟨holds.loaded, holds.keys⟩, fun id => ?_⟩
    have silent : taken keysMap id (resultsOn id [.recordDispatch keyId isCommunal]) = [] :=
      taken_nil keysMap id
    rw [silent]
    rfl

/-- A list of reports moves a key's breaker by the results on it. -/
theorem recordAll_holds (holds : Holds keysMap st) (now : Int) (reports : List PoolReport) :
    Holds keysMap (pool.recordAll db now st reports) ∧ ∀ id,
      pool.breakerOf (pool.recordAll db now st reports) id =
        (taken keysMap id (resultsOn id reports)).foldl
          (pool.circuitBreaker.applyResult now) (pool.breakerOf st id) := by
  induction reports generalizing st with
  | nil =>
    refine ⟨holds, fun id => ?_⟩
    rw [resultsOn_nil, taken_nil]
    rfl
  | cons report rest ih =>
    obtain ⟨kept, moved⟩ := record_holds  holds now report
    obtain ⟨later, movedRest⟩ := ih kept
    refine ⟨later, fun id => ?_⟩
    have split : resultsOn id (report :: rest) = resultsOn id [report] ++ resultsOn id rest :=
      resultsOn_append id [report] rest
    rw [split, taken_append, List.foldl_append, ← moved id]
    exact movedRest id

variable (pool db) in
/-- One outcome, fed once to the breaker of the key its request was sent on. -/
def feed (now : Int) (st : State) : Option (String × FetchOutcome) → State
  | none => st
  | some (keyId, .failed _) => (pool.recordResult st keyId false now db).2
  | some (keyId, .responded response) =>
    (pool.recordStatusCode st keyId response.status now db).2

variable (pool) in
/-- The results on a key an outcome counts as. -/
def verdictOn (id : String) : Option (String × FetchOutcome) → List Bool
  | none => []
  | some (keyId, .failed _) => if keyId = id then [false] else []
  | some (keyId, .responded response) =>
    if keyId = id then pool.circuitBreaker.verdict response.status else []

theorem feed_holds (holds : Holds keysMap st) (now : Int)
    (outcome : Option (String × FetchOutcome)) :
    Holds keysMap (pool.feed db now st outcome) ∧ ∀ id,
      pool.breakerOf (pool.feed db now st outcome) id =
        (taken keysMap id (pool.verdictOn id outcome)).foldl
          (pool.circuitBreaker.applyResult now) (pool.breakerOf st id) := by
  match outcome with
  | none =>
    refine ⟨holds, fun id => ?_⟩
    rw [verdictOn, taken_nil]
    rfl
  | some (keyId, .failed _) =>
    exact breaker_report holds keyId [false] now fun s id =>
      pool.circuitBreaker.load_recordResult s keyId false now id
  | some (keyId, .responded response) =>
    exact breaker_report holds keyId (pool.circuitBreaker.verdict response.status) now fun s id =>
      pool.circuitBreaker.load_recordStatusCode s keyId response.status now id

end KeyPool

/-! ## What an exchange comes to -/

namespace UpstreamClient

variable (client : UpstreamClient)

/-- What reaches the provider: the key id the client reports under, and the outcome. -/
def dispatch (request : UpstreamChatRequest) (exchange : Exchange) :
    Except UpstreamFailure (Option String × FetchOutcome) :=
  match client.resolveCredential request exchange with
  | .error failure => .error failure
  | .ok (keyId, apiKey) =>
    if apiKey.all isBlank then .error .invalidKey
    else if ¬exchange.sendable then .error .unsendable
    else .ok (keyId, exchange.fetch)

/-- The response is read as a stream. -/
def streams (request : UpstreamChatRequest) (response : HttpResponse) : Prop :=
  request.stream = true ∨ includes response.contentType "text/event-stream" = true

instance (request : UpstreamChatRequest) (response : HttpResponse) :
    Decidable (streams request response) :=
  inferInstanceAs (Decidable (_ ∨ _))

variable {client} {request : UpstreamChatRequest} {exchange : Exchange} {keyId : Option String}

/-- A request made with a key id is sent under it. -/
theorem dispatch_keyId {id : String} {fetch : FetchOutcome} (named : request.keyId = some id)
    (sent : client.dispatch request exchange = .ok (keyId, fetch)) : keyId = some id := by
  unfold dispatch at sent
  cases credential : client.resolveCredential request exchange with
  | error failure => simp [credential] at sent
  | ok pair =>
    obtain ⟨key, apiKey⟩ := pair
    simp only [credential] at sent
    split_ifs at sent
    cases sent
    unfold resolveCredential at credential
    simp only [named, Option.getD_some] at credential
    repeat' split at credential
    all_goals first
      | cases credential; done
      | exact (congrArg Prod.fst (Except.ok.inj credential)).symm

theorem chat_unsent {failure : UpstreamFailure}
    (unsent : client.dispatch request exchange = .error failure) :
    client.chat request exchange = ([], .error failure) := by
  unfold dispatch at unsent
  unfold chat send
  cases credential : client.resolveCredential request exchange with
  | error early =>
    rw [credential] at unsent
    cases unsent
    rfl
  | ok pair =>
    obtain ⟨key, apiKey⟩ := pair
    simp only [credential] at unsent ⊢
    split_ifs at unsent with blank unsendable
    · cases unsent
      simp [blank]
    · cases unsent
      simp [blank, unsendable]

variable (client request keyId) in
/-- The rest of `send`, once the request is sent. -/
def received : FetchOutcome → List PoolReport × Except UpstreamFailure UpstreamResponse
  | .failed timedOut =>
    (client.reportsOn keyId fun id => [.recordResult id false],
      .error (if timedOut then .timeout else .network))
  | .responded response =>
    if ¬response.ok then
      (client.reportsOn keyId fun id => [.recordResult id false],
        .error (.status response.status))
    else if streams request response then
      if ¬response.hasBody then ([], .error .emptyStreamBody)
      else ([], .ok (client.readStream request keyId response))
    else
      (client.reportsOn keyId fun id => [.recordResult id true],
        .ok (client.readPlain request keyId response))

theorem send_sent {fetch : FetchOutcome}
    (sent : client.dispatch request exchange = .ok (keyId, fetch)) :
    client.send request exchange = client.received request keyId fetch := by
  unfold dispatch at sent
  unfold send
  cases credential : client.resolveCredential request exchange with
  | error failure => simp [credential] at sent
  | ok pair =>
    obtain ⟨key, apiKey⟩ := pair
    simp only [credential] at sent ⊢
    split_ifs at sent with blank unsendable
    obtain ⟨rfl, rfl⟩ := Prod.mk.inj (Except.ok.inj sent)
    rw [if_neg blank, if_neg (not_not_intro unsendable)]
    rfl

variable {response : HttpResponse}

theorem chat_failed {timedOut : Bool}
    (sent : client.dispatch request exchange = .ok (keyId, .failed timedOut)) :
    ∃ failure, failure.isAbort = false ∧ client.chat request exchange =
      (client.reportsOn keyId fun id => [.recordResult id false], .error failure) := by
  refine ⟨if timedOut then .timeout else .network, ?_, ?_⟩
  · cases timedOut <;> rfl
  · rw [chat, send_sent sent, received]

theorem chat_rejected
    (sent : client.dispatch request exchange = .ok (keyId, .responded response))
    (rejected : response.ok = false) :
    client.chat request exchange =
      (client.reportsOn keyId fun id => [.recordResult id false],
        .error (.status response.status)) := by
  rw [chat, send_sent sent]
  simp [received, rejected]

theorem chat_bodyless
    (sent : client.dispatch request exchange = .ok (keyId, .responded response))
    (accepted : response.ok = true) (streamed : streams request response)
    (bodyless : response.hasBody = false) :
    client.chat request exchange = ([], .error .emptyStreamBody) := by
  rw [chat, send_sent sent]
  simp [received, accepted, streamed, bodyless]

theorem chat_streamed
    (sent : client.dispatch request exchange = .ok (keyId, .responded response))
    (accepted : response.ok = true) (stream : request.stream = true)
    (body : response.hasBody = true) :
    ∃ chatRes, client.chat request exchange = ([], .ok chatRes) ∧
      chatRes.response = client.readStream request keyId response := by
  have streamed : streams request response := Or.inl stream
  refine ⟨⟨none, 0, client.readStream request keyId response⟩, ?_, rfl⟩
  rw [chat, send_sent sent]
  simp [received, accepted, streamed, body, stream]

/-- A cost is found for every usage. -/
def Costed (client : UpstreamClient) : Prop :=
  ∀ calculate, client.costCalculator = some calculate →
    ∀ model usage, (calculate model usage).isSome = true

/-- A response that is not streamed ends as its reading does. -/
theorem chat_of_send {reports : List PoolReport} {arrived : UpstreamResponse}
    (costed : Costed client) (plain : request.stream = false)
    (sent : client.send request exchange = (reports, .ok arrived)) :
    match arrived.json.2 with
    | .error failure =>
      client.chat request exchange = (reports ++ arrived.json.1, .error failure)
    | .ok () => ∃ chatRes,
      client.chat request exchange = (reports ++ arrived.json.1, .ok chatRes) := by
  unfold chat
  simp only [sent, plain, Bool.false_eq_true, ↓reduceIte]
  rcases arrived.json with ⟨read, failure | done⟩
  · rfl
  · simp only
    cases found : arrived.usage with
    | none => exact ⟨_, rfl⟩
    | some usage =>
      cases calculator : client.costCalculator with
      | none => exact ⟨_, rfl⟩
      | some calculate =>
        obtain ⟨cost, computed⟩ :=
          Option.isSome_iff_exists.mp (costed calculate calculator request.model usage)
        simp only [computed]
        exact ⟨_, rfl⟩

section Results

open KeyPool

/-- Reports of a key that is named count for the key they name. -/
theorem resultsOn_named {id : String} (named : id ≠ "") {reports : String → List PoolReport}
    {results : List Bool}
    (own : ∀ keyId, resultsOn id (reports keyId) = if keyId = id then results else [])
    (keyId : Option String) :
    resultsOn id (((keyId.filter (· ≠ "")).map reports).getD []) =
      if keyId = some id then results else [] := by
  cases keyId with
  | none => rfl
  | some key =>
    by_cases empty : key = ""
    · have other : key ≠ id := fun same => named (same ▸ empty)
      simp [Option.filter, empty, named.symm]
    · have kept : (some key).filter (· ≠ "") = some key := by simp [empty]
      simp only [kept, Option.map_some, Option.getD_some, own, Option.some.injEq]

variable {id : String} (pooled : client.hasKeyPool = true) (named : id ≠ "")

include pooled named in
/-- Reports that come to the same results on whichever key they name. -/
theorem resultsOn_reportsOn {reports : String → List PoolReport} {results : List Bool}
    (own : ∀ keyId, resultsOn id (reports keyId) = if keyId = id then results else []) :
    resultsOn id (client.reportsOn keyId reports) = if keyId = some id then results else [] := by
  have sent : client.reportsOn keyId reports =
      ((keyId.filter (· ≠ "")).map reports).getD [] := by
    unfold reportsOn
    cases keyId.filter (· ≠ "") <;> simp [pooled]
  rw [sent]
  exact resultsOn_named named own keyId

theorem resultsOn_usageReports (model : String) (usage : Option StreamUsage) (keyId : String) :
    resultsOn id (client.usageReports model usage keyId) = [] := by
  unfold usageReports
  repeat' split
  all_goals rfl

include pooled named in
theorem resultsOn_result (success : Bool) :
    resultsOn id (client.reportsOn keyId fun id => [.recordResult id success]) =
      if keyId = some id then [success] else [] := by
  apply resultsOn_reportsOn pooled named
  intro key
  by_cases same : key = id
  · simp [resultsOn, same]
  · simp [resultsOn, same]

include pooled named in
/-- A stream read to its end counts as one success. -/
theorem resultsOn_readStream (response : HttpResponse) :
    resultsOn id (client.readStream request keyId response).onDone =
      if keyId = some id then [true] else [] := by
  apply resultsOn_reportsOn pooled named
  intro key
  have split : resultsOn id (.recordResult key true ::
      client.usageReports request.model (streamUsage response.updates) key) =
    resultsOn id [.recordResult key true] ++
      resultsOn id (client.usageReports request.model (streamUsage response.updates) key) :=
    resultsOn_append id [.recordResult key true] _
  rw [split, resultsOn_usageReports, List.append_nil]
  by_cases same : key = id
  · simp [resultsOn, same]
  · simp [resultsOn, same]

include pooled named in
theorem resultsOn_readPlain (response : HttpResponse) :
    resultsOn id (client.readPlain request keyId response).json.1 = [] := by
  unfold readPlain
  cases response.json with
  | error failure => rfl
  | ok update =>
    have silent : resultsOn id (client.reportsOn keyId
        (client.usageReports request.model (update.map UsageUpdate.extracted))) =
        if keyId = some id then [] else [] := by
      apply resultsOn_reportsOn pooled named
      intro key
      rw [resultsOn_usageReports, ite_self]
    rw [ite_self] at silent
    exact silent

variable (request) in
/-- The body is read as a stream, which breaks off. -/
def BreaksOff (response : HttpResponse) : Prop :=
  streams request response ∧ response.breaksOff = true

instance : Decidable (BreaksOff request response) :=
  inferInstanceAs (Decidable (_ ∧ _))

include pooled named in
/-- A response read whole counts as one success, unless its stream breaks off, and ends as its
reading does. -/
theorem chat_read {response : HttpResponse} (costed : Costed client)
    (sent : client.dispatch request exchange = .ok (keyId, .responded response))
    (accepted : response.ok = true) (plain : request.stream = false)
    (body : streams request response → response.hasBody = true) :
    ∃ reports,
      resultsOn id reports =
        (if BreaksOff request response then [] else if keyId = some id then [true] else []) ∧
      match response.json with
      | .error failure => client.chat request exchange = (reports, .error (.body failure.name))
      | .ok _ => ∃ chatRes, client.chat request exchange = (reports, .ok chatRes) := by
  have arrived := send_sent sent
  by_cases streamed : streams request response
  · simp only [received, accepted, streamed, body streamed, not_true_eq_false, ↓reduceIte]
      at arrived
    have ended := chat_of_send costed plain arrived
    have done := @resultsOn_readStream client request keyId id pooled named response
    refine ⟨[] ++ (client.readStream request keyId response).json.1, ?_⟩
    unfold readStream at ended done ⊢
    cases parsed : response.json with
    | error failure =>
      rw [parsed] at ended
      cases failure with
      | read name => exact ⟨by simp [BreaksOff, HttpResponse.breaksOff, streamed, parsed], ended⟩
      | parse => exact ⟨by simpa [BreaksOff, HttpResponse.breaksOff, parsed] using done, ended⟩
    | ok update =>
      rw [parsed] at ended
      exact ⟨by simpa [BreaksOff, HttpResponse.breaksOff, parsed] using done, ended⟩
  · simp only [received, accepted, streamed, not_true_eq_false, ↓reduceIte] at arrived
    have ended := chat_of_send costed plain arrived
    refine ⟨(client.reportsOn keyId fun id => [.recordResult id true]) ++
      (client.readPlain request keyId response).json.1, ?_, ?_⟩
    · have whole : ¬ BreaksOff request response := fun breaks => streamed breaks.1
      rw [if_neg whole, resultsOn_append, resultsOn_result pooled named,
        resultsOn_readPlain pooled named, List.append_nil]
    · unfold readPlain at ended ⊢
      cases parsed : response.json with
      | error failure =>
        rw [parsed] at ended
        exact ended
      | ok update =>
        rw [parsed] at ended
        exact ended

end Results

end UpstreamClient

/-! ## Attempts -/

section Attempts

variable [Host]

/-- A request sent to a provider in the course of a cascade. -/
structure Attempt where
  request : CascadeRouteRequest
  selfKeyRouted : Bool
  before : List FallbackAttempt
  candidate : ModelDef
  round : Round
  keyId : Option String
  apiKey : Option String

namespace Attempt

variable (router : CascadeRouter) (attempt : Attempt)

def upstreamRequest : UpstreamChatRequest :=
  CascadeRouter.upstreamRequest attempt.request attempt.candidate attempt.keyId attempt.apiKey

def executed : Sent × CascadeRouter.RoundEnd :=
  router.executeRound attempt.request attempt.selfKeyRouted attempt.before attempt.candidate
    attempt.round attempt.keyId attempt.apiKey

/-- The reports made when the answer's stream has been read to its end. -/
def later : List PoolReport :=
  match (attempt.executed router).2 with
  | .answered response => if attempt.request.stream then response.response.onDone else []
  | _ => []

/-- The key the attempt was dispatched on, and its outcome. -/
def outcome : Option (String × FetchOutcome) :=
  match router.upstreamClient.dispatch attempt.upstreamRequest attempt.round.exchange with
  | .ok (keyId, fetch) => (keyId.filter (· ≠ "")).map (·, fetch)
  | .error _ => none

open KeyPool

section Results

variable {router attempt}

/-- The router's results on a key, of a round that has answered or failed. -/
def routerResults (attempt : Attempt) (id : String) (success : Bool) : List Bool :=
  if attempt.keyId = some id then [success] else []

theorem resultsOn_router {id : String} (pooled : router.hasKeyPool = true) (named : id ≠ "")
    {reports : String → List PoolReport} {results : List Bool}
    (own : ∀ keyId, resultsOn id (reports keyId) = if keyId = id then results else [])
    (keyId : Option String) :
    resultsOn id (router.reportsOn keyId reports) = if keyId = some id then results else [] := by
  have sent : router.reportsOn keyId reports =
      ((keyId.filter (· ≠ "")).map reports).getD [] := by
    unfold CascadeRouter.reportsOn
    cases keyId.filter (· ≠ "") <;> simp [pooled]
  rw [sent]
  exact UpstreamClient.resultsOn_named named own keyId

variable {id : String} (pooled : router.hasKeyPool = true) (named : id ≠ "")
  {reports : List PoolReport}

include pooled named in
/-- A failed exchange counts again for the router, unless the caller has gone. -/
theorem resultsOn_error {failure : UpstreamFailure}
    (exchanged : router.upstreamClient.chat attempt.upstreamRequest attempt.round.exchange =
      (reports, .error failure)) :
    resultsOn id (attempt.executed router).1.reports = resultsOn id reports ++
        (if failure.isAbort || attempt.round.abortedAfter then []
          else attempt.routerResults id false) ∧
      attempt.later router = [] := by
  unfold later executed CascadeRouter.executeRound
  rw [← upstreamRequest, exchanged]
  simp only
  split
  · exact ⟨(List.append_nil _).symm, rfl⟩
  · refine ⟨?_, rfl⟩
    rw [resultsOn_append]
    congr 1
    apply resultsOn_router pooled named
    intro key
    by_cases same : key = id
    · simp [resultsOn, same]
    · simp [resultsOn, same]

include pooled named in
/-- So does one that answers. -/
theorem resultsOn_ok {chatRes : UpstreamChatResponse}
    (exchanged : router.upstreamClient.chat attempt.upstreamRequest attempt.round.exchange =
      (reports, .ok chatRes)) :
    resultsOn id (attempt.executed router).1.reports =
        resultsOn id reports ++ attempt.routerResults id true ∧
      attempt.later router =
        if attempt.request.stream then chatRes.response.onDone else [] := by
  unfold later executed CascadeRouter.executeRound
  rw [← upstreamRequest, exchanged]
  refine ⟨?_, rfl⟩
  rw [resultsOn_append]
  congr 1
  apply resultsOn_router pooled named
  intro key
  unfold CascadeRouter.successReports
  by_cases same : key = id
  · split <;> simp [resultsOn, same]
  · split <;> simp [resultsOn, same]

/-! ### The results of an attempt, by what came of it -/

variable (costed : router.upstreamClient.Costed)
  (client : router.upstreamClient.hasKeyPool = true)
  {keyId : Option String} {response : HttpResponse}

/-- The router counts the failure of an exchange on the key. -/
def routerFailure (attempt : Attempt) (abort : Bool) (id : String) : List Bool :=
  if abort || attempt.round.abortedAfter then [] else attempt.routerResults id false

/-- What the client reports on the key. -/
def clientResults (keyId : Option String) (id : String) (success : Bool) : List Bool :=
  if keyId = some id then [success] else []

variable (router) in
/-- The results on a key, at the attempt's own instant and at the end of its stream. -/
def Results (attempt : Attempt) (id : String) (first last : List Bool) : Prop :=
  resultsOn id (attempt.executed router).1.reports = first ∧
    resultsOn id (attempt.later router) = last

include pooled named in
theorem results_unsent {failure : UpstreamFailure}
    (unsent : router.upstreamClient.dispatch attempt.upstreamRequest attempt.round.exchange =
      .error failure) :
    attempt.Results router id (attempt.routerFailure failure.isAbort id) [] := by
  obtain ⟨first, last⟩ := resultsOn_error pooled named (UpstreamClient.chat_unsent unsent)
  refine ⟨first, ?_⟩
  rw [last, resultsOn_nil]

include pooled named client in
theorem results_failed {timedOut : Bool}
    (sent : router.upstreamClient.dispatch attempt.upstreamRequest attempt.round.exchange =
      .ok (keyId, .failed timedOut)) :
    attempt.Results router id
      (clientResults keyId id false ++ attempt.routerFailure false id) [] := by
  obtain ⟨failure, kept, exchanged⟩ := UpstreamClient.chat_failed sent
  obtain ⟨first, last⟩ := resultsOn_error pooled named exchanged
  rw [UpstreamClient.resultsOn_result client named, kept] at first
  refine ⟨first, ?_⟩
  rw [last, resultsOn_nil]

include pooled named client in
theorem results_rejected
    (sent : router.upstreamClient.dispatch attempt.upstreamRequest attempt.round.exchange =
      .ok (keyId, .responded response)) (rejected : response.ok = false) :
    attempt.Results router id
      (clientResults keyId id false ++ attempt.routerFailure false id) [] := by
  obtain ⟨first, last⟩ := resultsOn_error pooled named (UpstreamClient.chat_rejected sent rejected)
  rw [UpstreamClient.resultsOn_result client named] at first
  refine ⟨first, ?_⟩
  rw [last, resultsOn_nil]

include pooled named in
theorem results_bodyless
    (sent : router.upstreamClient.dispatch attempt.upstreamRequest attempt.round.exchange =
      .ok (keyId, .responded response)) (accepted : response.ok = true)
    (streamed : UpstreamClient.streams attempt.upstreamRequest response)
    (bodyless : response.hasBody = false) :
    attempt.Results router id (attempt.routerFailure false id) [] := by
  obtain ⟨first, last⟩ := resultsOn_error pooled named
    (UpstreamClient.chat_bodyless sent accepted streamed bodyless)
  refine ⟨first, ?_⟩
  rw [last, resultsOn_nil]

include pooled named client in
theorem results_streamed
    (sent : router.upstreamClient.dispatch attempt.upstreamRequest attempt.round.exchange =
      .ok (keyId, .responded response)) (accepted : response.ok = true)
    (stream : attempt.request.stream = true) (body : response.hasBody = true) :
    attempt.Results router id (attempt.routerResults id true) (clientResults keyId id true) := by
  obtain ⟨chatRes, exchanged, read⟩ := UpstreamClient.chat_streamed sent accepted stream body
  obtain ⟨first, last⟩ := resultsOn_ok pooled named exchanged
  refine ⟨first, ?_⟩
  rw [last, if_pos stream, read]
  exact UpstreamClient.resultsOn_readStream client named response

include pooled named client costed in
theorem results_plain
    (sent : router.upstreamClient.dispatch attempt.upstreamRequest attempt.round.exchange =
      .ok (keyId, .responded response)) (accepted : response.ok = true)
    (plain : attempt.request.stream = false)
    (body : UpstreamClient.streams attempt.upstreamRequest response → response.hasBody = true) :
    attempt.Results router id
      ((if UpstreamClient.BreaksOff attempt.upstreamRequest response then []
        else clientResults keyId id true) ++ match response.json with
        | .error failure => attempt.routerFailure (failure.name = "AbortError") id
        | .ok _ => attempt.routerResults id true) [] := by
  obtain ⟨reports, results, ended⟩ :=
    UpstreamClient.chat_read client named costed sent accepted plain body
  cases parsed : response.json with
  | error failure =>
    rw [parsed] at ended
    obtain ⟨first, last⟩ := resultsOn_error pooled named ended
    rw [results] at first
    refine ⟨first, ?_⟩
    rw [last, resultsOn_nil]
  | ok update =>
    rw [parsed] at ended
    obtain ⟨chatRes, exchanged⟩ := ended
    obtain ⟨first, last⟩ := resultsOn_ok pooled named exchanged
    rw [results] at first
    refine ⟨first, ?_⟩
    rw [last, plain]
    rfl

end Results

end Attempt

end Attempts

end KeyCollective
