import KeyCollective.Proxy.Upstream

/-!
# CascadeRouter

The loop over candidate models. Each round takes a key from the pool, sends one
request and reports on the key; a failed round escalates to the next candidate.
-/

namespace KeyCollective

variable [Host]

structure CascadeRouteRequest where
  stream : Bool
  apiKey : Option String := none
  maxFallbacks : Option Nat := none
  tenantId : Option String := none

structure CascadeRouter where
  registry : ModelRegistry
  upstreamClient : UpstreamClient
  hasKeyPool : Bool
  maxFallbacks : Nat := 5

/-- What the outside does in the round of one candidate. -/
structure Round where
  /-- The request's signal is aborted when the round starts. -/
  abortedBefore : Bool := false
  /-- The pool's answer to the router. -/
  acquired : Except String String
  exchange : Exchange
  /-- The request's signal is aborted when the round has failed. -/
  abortedAfter : Bool := false
  /-- When the outcome of the round's request is known. -/
  now : Int := 0
  /-- When the caller has read its stream to the end, if it does. -/
  streamEnd : Option Int := none

structure FallbackAttempt where
  provider : String
  modelId : String
  failure : UpstreamFailure
deriving DecidableEq, Repr

structure CascadeRouteResponse where
  costMicrodollars : Int
  model : String
  provider : String
  modelDef : ModelDef
  attempts : List FallbackAttempt
  usage : Option StreamUsage
  response : UpstreamResponse
  isSelfKey : Bool

inductive CascadeError where
  | aborted
  | cancelled (failure : UpstreamFailure)
  | exhausted (attempts : List FallbackAttempt)

/-- A round that sent a request, with the reports made during it. -/
structure Sent where
  candidate : ModelDef
  round : Round
  /-- The key id acquired from the pool for it. -/
  keyId : Option String
  reports : List PoolReport

structure Cascade where
  sent : List Sent
  outcome : Except CascadeError CascadeRouteResponse

namespace CascadeRouter

/-- A cost, or zero when its calculation throws. -/
def costOrZero (registry : ModelRegistry) (model : String) (usage : StreamUsage) : Int :=
  (registry.calculateCost model usage).getD 0

/-- The client a router builds for itself: the registry as its calculator, no resolver. -/
def defaultClient (registry : ModelRegistry) (hasKeyPool : Bool) : UpstreamClient where
  hasKeyPool := hasKeyPool
  hasKeyResolver := false
  costCalculator := some fun model usage => some (costOrZero registry model usage)

variable (router : CascadeRouter)

/-- Check the cost the client gives against the registry. -/
def verifiedCost (candidate : ModelDef) (chatRes : UpstreamChatResponse) : Int :=
  match chatRes.usage with
  | some usage =>
    if chatRes.costMicrodollars = 0 then costOrZero router.registry candidate.id usage
    else chatRes.costMicrodollars
  | none => chatRes.costMicrodollars

/-- The router's own reports on a key, made only with a pool and a key id. -/
def reportsOn (keyId : Option String) (reports : String → List PoolReport) : List PoolReport :=
  match keyId.filter (· ≠ "") with
  | some id => if router.hasKeyPool then reports id else []
  | none => []

def successReports (selfKeyRouted : Bool) (costMicrodollars : Int) (keyId : String) :
    List PoolReport :=
  [.recordDispatch keyId (!selfKeyRouted), .recordResult keyId true] ++
    if 0 < costMicrodollars then [.recordUsage keyId costMicrodollars] else []

/-- The key the router acquires, unless the request brings its own. -/
def acquireKey (request : CascadeRouteRequest) (round : Round) :
    Except String (Option String × Option String) :=
  if isFalsy request.apiKey ∧ router.hasKeyPool then
    match round.acquired with
    | .ok keyId => .ok (some keyId, some keyId)
    | .error message => .error message
  else .ok (none, request.apiKey)

def upstreamRequest (request : CascadeRouteRequest) (candidate : ModelDef)
    (keyId apiKey : Option String) : UpstreamChatRequest where
  provider := candidate.provider
  model := candidate.id
  stream := request.stream
  apiKey := apiKey
  keyId := keyId

/-- The end of a round that sent a request. -/
inductive RoundEnd where
  | answered (response : CascadeRouteResponse)
  | cancelled (failure : UpstreamFailure)
  | failed (failure : UpstreamFailure)

/-- Send one request and report on its key. -/
def executeRound (request : CascadeRouteRequest) (selfKeyRouted : Bool)
    (attempts : List FallbackAttempt) (candidate : ModelDef) (round : Round)
    (keyId apiKey : Option String) : Sent × RoundEnd :=
  match router.upstreamClient.chat (upstreamRequest request candidate keyId apiKey)
      round.exchange with
  | (reports, .ok chatRes) =>
    let costMicrodollars := router.verifiedCost candidate chatRes
    ({ candidate, round, keyId
       reports := reports ++
         router.reportsOn keyId (successReports selfKeyRouted costMicrodollars) },
      .answered
        { costMicrodollars
          model := candidate.id
          provider := candidate.provider
          modelDef := candidate
          attempts
          usage := chatRes.usage
          response := chatRes.response
          isSelfKey := selfKeyRouted })
  | (reports, .error failure) =>
    if failure.isAbort || round.abortedAfter then
      ({ candidate, round, keyId, reports }, .cancelled failure)
    else
      ({ candidate, round, keyId
         reports := reports ++ router.reportsOn keyId fun id => [.recordResult id false] },
        .failed failure)

/-- The loop, over the candidates left and what happens in their rounds. -/
def tryCandidates (request : CascadeRouteRequest) (selfKeyRouted : Bool) :
    List (ModelDef × Round) → List Sent → List FallbackAttempt → Cascade
  | [], sent, attempts => ⟨sent, .error (.exhausted attempts)⟩
  | (candidate, round) :: rest, sent, attempts =>
    if round.abortedBefore then ⟨sent, .error .aborted⟩
    else match router.acquireKey request round with
      | .error message =>
        let failure : FallbackAttempt :=
          ⟨candidate.provider, candidate.id, .keyAcquisition message⟩
        tryCandidates request selfKeyRouted rest sent (attempts ++ [failure])
      | .ok (keyId, apiKey) =>
        match router.executeRound request selfKeyRouted attempts candidate round keyId apiKey with
        | (made, .answered response) => ⟨sent ++ [made], .ok response⟩
        | (made, .cancelled failure) => ⟨sent ++ [made], .error (.cancelled failure)⟩
        | (made, .failed failure) =>
          tryCandidates request selfKeyRouted rest (sent ++ [made])
            (attempts ++ [⟨candidate.provider, candidate.id, failure⟩])

/-- `selfKeyAvailable` is the pool's answer to the check made for a named tenant. -/
def executeCascadeRouting (request : CascadeRouteRequest) (selfKeyAvailable : Bool)
    (candidates : List (ModelDef × Round)) : Cascade :=
  let candidatesToTry := candidates.take (1 + request.maxFallbacks.getD router.maxFallbacks)
  let selfKeyRouted :=
    !isFalsy request.tenantId && !candidatesToTry.isEmpty && selfKeyAvailable
  router.tryCandidates request selfKeyRouted candidatesToTry [] []

/-! ## What a route that succeeds has done -/

theorem executeRound_sent (request : CascadeRouteRequest) (selfKeyRouted : Bool)
    (attempts : List FallbackAttempt) (candidate : ModelDef) (round : Round)
    (keyId apiKey : Option String) :
    (router.executeRound request selfKeyRouted attempts candidate round keyId apiKey).1.keyId =
        keyId ∧
      (router.executeRound request selfKeyRouted attempts candidate round keyId
        apiKey).1.candidate = candidate := by
  unfold executeRound
  rcases router.upstreamClient.chat (upstreamRequest request candidate keyId apiKey)
    round.exchange with ⟨reports, failure | chatRes⟩
  · simp only
    split
    · exact ⟨rfl, rfl⟩
    · exact ⟨rfl, rfl⟩
  · exact ⟨rfl, rfl⟩

/-- The round that answers: what the exchange reported, then the router's own reports. -/
theorem executeRound_answered {request : CascadeRouteRequest} {selfKeyRouted : Bool}
    {attempts : List FallbackAttempt} {candidate : ModelDef} {round : Round}
    {keyId apiKey : Option String} {made : Sent} {response : CascadeRouteResponse}
    (executed : router.executeRound request selfKeyRouted attempts candidate round keyId apiKey =
      (made, .answered response)) :
    ∃ reports chatRes,
      router.upstreamClient.chat (upstreamRequest request candidate keyId apiKey)
        round.exchange = (reports, .ok chatRes) ∧
      made.reports = reports ++ router.reportsOn keyId
        (successReports selfKeyRouted response.costMicrodollars) ∧
      response.costMicrodollars = router.verifiedCost candidate chatRes ∧
      response.model = candidate.id ∧ response.modelDef = candidate ∧
      response.usage = chatRes.usage ∧ response.response = chatRes.response := by
  unfold executeRound at executed
  revert executed
  rcases router.upstreamClient.chat (upstreamRequest request candidate keyId apiKey)
    round.exchange with ⟨reports, failure | chatRes⟩
  · intro executed
    simp only at executed
    split at executed
    · simp at executed
    · simp at executed
  · intro executed
    simp only [Prod.mk.injEq, RoundEnd.answered.injEq] at executed
    obtain ⟨rfl, rfl⟩ := executed
    exact ⟨reports, chatRes, rfl, rfl, rfl, rfl, rfl, rfl, rfl⟩

/-- A round that ended in a failure which escalates. -/
def Failed (request : CascadeRouteRequest) (selfKeyRouted : Bool) (made : Sent) : Prop :=
  ∃ attempts candidate round keyId apiKey failure,
    router.executeRound request selfKeyRouted attempts candidate round keyId apiKey =
      (made, .failed failure)

/-- A route that succeeds has sent failed rounds and then the one that answered. -/
theorem tryCandidates_answered {request : CascadeRouteRequest} {selfKeyRouted : Bool}
    {rest : List (ModelDef × Round)} {sent : List Sent} {attempts : List FallbackAttempt}
    {response : CascadeRouteResponse}
    (routed : (router.tryCandidates request selfKeyRouted rest sent attempts).outcome =
      .ok response) :
    ∃ earlier made before candidate round keyId apiKey,
      (candidate, round) ∈ rest ∧ router.acquireKey request round = .ok (keyId, apiKey) ∧
      router.executeRound request selfKeyRouted before candidate round keyId apiKey =
        (made, .answered response) ∧
      (∀ failed ∈ earlier, router.Failed request selfKeyRouted failed) ∧
      (router.tryCandidates request selfKeyRouted rest sent attempts).sent =
        sent ++ earlier ++ [made] := by
  induction rest generalizing sent attempts with
  | nil => simp [tryCandidates] at routed
  | cons head rest ih =>
    obtain ⟨candidate, round⟩ := head
    unfold tryCandidates at routed ⊢
    by_cases gone : round.abortedBefore = true
    · simp [gone] at routed
    simp only [gone, Bool.false_eq_true, ↓reduceIte] at routed ⊢
    cases acquired : router.acquireKey request round with
    | error message =>
      simp only [acquired] at routed ⊢
      obtain ⟨earlier, made, before, model, next, keyId, apiKey, mem, rest⟩ := ih routed
      exact ⟨earlier, made, before, model, next, keyId, apiKey, List.mem_cons_of_mem _ mem, rest⟩
    | ok pair =>
      obtain ⟨keyId, apiKey⟩ := pair
      simp only [acquired] at routed ⊢
      cases executed : router.executeRound request selfKeyRouted attempts candidate round keyId
          apiKey with
      | mk made ending =>
        cases ending with
        | answered answer =>
          simp only [executed] at routed ⊢
          cases routed
          exact ⟨[], made, attempts, candidate, round, keyId, apiKey, List.mem_cons_self,
            acquired, executed, by simp, by simp⟩
        | cancelled failure => simp [executed] at routed
        | failed failure =>
          simp only [executed] at routed ⊢
          obtain ⟨earlier, last, before, model, next, key, credential, mem, taken, answered,
            failed, sentEq⟩ := ih routed
          refine ⟨made :: earlier, last, before, model, next, key, credential,
            List.mem_cons_of_mem _ mem, taken, answered, ?_, ?_⟩
          · intro x hx
            rcases List.mem_cons.mp hx with rfl | hx
            · exact ⟨attempts, candidate, round, keyId, apiKey, failure, executed⟩
            · exact failed x hx
          · rw [sentEq]
            simp

/-- Reports of the router that a reader passes, whatever their key, are passed as a whole. -/
theorem filterMap_reportsOn {α : Type} {read : PoolReport → Option α}
    {reports : String → List PoolReport} (silent : ∀ id, (reports id).filterMap read = [])
    (keyId : Option String) : (router.reportsOn keyId reports).filterMap read = [] := by
  unfold reportsOn
  split
  · split
    · exact silent _
    · rfl
  · rfl

/-- Without a calculator a failed round reports no usage. -/
theorem usages_failed (uncosted : router.upstreamClient.costCalculator = none)
    {request : CascadeRouteRequest} {selfKeyRouted : Bool} {made : Sent}
    (failed : router.Failed request selfKeyRouted made) : usages made.reports = [] := by
  obtain ⟨attempts, candidate, round, keyId, apiKey, failure, executed⟩ := failed
  have silent := UpstreamClient.usages_chat uncosted
    (upstreamRequest request candidate keyId apiKey) round.exchange
  unfold executeRound at executed
  revert silent executed
  rcases router.upstreamClient.chat (upstreamRequest request candidate keyId apiKey)
    round.exchange with ⟨reports, failure' | chatRes⟩
  · intro executed silent
    simp only at executed
    split at executed
    · simp at executed
    · simp only [Prod.mk.injEq, RoundEnd.failed.injEq] at executed
      rw [← executed.1, usages_append, silent]
      exact router.filterMap_reportsOn (fun _ => rfl) keyId
  · intro executed silent
    simp at executed

end CascadeRouter

/-- The two ways the code builds a router with a key pool. -/
inductive RouterSource where
  /-- The worker's resolver: a client with a key resolver and no calculator. -/
  | resolver
  /-- `CascadeRouter` without an injected client. -/
  | default
deriving DecidableEq, Repr

def RouterSource.router (source : RouterSource) (registry : ModelRegistry) : CascadeRouter where
  registry := registry
  hasKeyPool := true
  upstreamClient := match source with
    | .resolver => { hasKeyPool := true, hasKeyResolver := true, costCalculator := none }
    | .default => CascadeRouter.defaultClient registry true

end KeyCollective
