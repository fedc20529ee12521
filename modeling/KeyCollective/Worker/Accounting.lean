import KeyCollective.Worker.Chat

/-!
# Usage accounting

The usage reports of a completion, from the client, the router and the worker
together. The router's report names the key that was dispatched; the worker's
names the model that answered.
-/

namespace KeyCollective

section Completions

variable [Host]

/-- The id of the key the last request was sent with. -/
def Cascade.dispatchedKey (cascade : Cascade) : Option String :=
  cascade.sent.getLast?.bind Sent.keyId

/-- The registry's cost of the usage a response ends with. -/
def finalCost (registry : ModelRegistry) (response : CascadeRouteResponse) : Int :=
  match response.response.usage with
  | some usage => CascadeRouter.costOrZero registry response.model usage
  | none => 0

namespace ChatHandler

variable {registry : ModelRegistry} {source : RouterSource} {request : ChatRequest}

/-- What a completion that succeeded was: the round that answered it, on the key the
pool gave out for it, after rounds that failed. -/
structure Answered (source : RouterSource) (registry : ModelRegistry) (request : ChatRequest)
    (response : CascadeRouteResponse) where
  key : String
  earlier : List Sent
  reports : List PoolReport
  round : Round
  chatRes : UpstreamChatResponse
  candidate : (response.modelDef, round) ∈ request.candidates
  failed : ∀ made ∈ earlier,
    (source.router registry).Failed (cascadeRequest request) false made
  exchanged : (source.router registry).upstreamClient.chat
    (CascadeRouter.upstreamRequest (cascadeRequest request) response.modelDef (some key) (some key))
    round.exchange = (reports, .ok chatRes)
  cost : response.costMicrodollars =
    (source.router registry).verifiedCost response.modelDef chatRes
  model : response.model = response.modelDef.id
  usage : response.usage = chatRes.usage
  answer : response.response = chatRes.response
  acquired : round.acquired = .ok key
  dispatched : (route (source.router registry) request).dispatchedKey = some key
  reported : (route (source.router registry) request).sent.flatMap Sent.reports =
    earlier.flatMap Sent.reports ++ reports ++
      (source.router registry).reportsOn (some key)
        (CascadeRouter.successReports false response.costMicrodollars)

theorem acquireKey_worker (round : Round) {keyId apiKey : Option String}
    (taken : (source.router registry).acquireKey (cascadeRequest request) round =
      .ok (keyId, apiKey)) :
    ∃ key, round.acquired = .ok key ∧ keyId = some key ∧ apiKey = some key := by
  simp only [CascadeRouter.acquireKey, cascadeRequest, isFalsy, RouterSource.router,
    and_self, ↓reduceIte] at taken
  cases acquired : round.acquired with
  | error message => simp [acquired] at taken
  | ok key =>
    simp only [acquired, Except.ok.injEq, Prod.mk.injEq] at taken
    exact ⟨key, rfl, taken.1.symm, taken.2.symm⟩

theorem answered_of_ok {response : CascadeRouteResponse}
    (routed : (route (source.router registry) request).outcome = .ok response) :
    Nonempty (Answered source registry request response) := by
  have falsy : isFalsy (cascadeRequest request).tenantId = true := rfl
  obtain ⟨earlier, made, before, candidate, round, keyId, apiKey, mem, taken, executed, failed,
    sent⟩ := CascadeRouter.tryCandidates_answered (source.router registry) routed
  obtain ⟨key, acquired, rfl, rfl⟩ := acquireKey_worker round taken
  rw [falsy] at executed failed sent
  simp only [Bool.not_true, Bool.false_and] at executed failed sent
  obtain ⟨reports, chatRes, exchanged, madeReports, cost, model, modelDef, usage, answer⟩ :=
    CascadeRouter.executeRound_answered (source.router registry) executed
  subst modelDef
  have sentAll : (route (source.router registry) request).sent = earlier ++ [made] := by
    rw [route, CascadeRouter.executeCascadeRouting, falsy]
    exact sent
  refine ⟨⟨key, earlier, reports, round, chatRes, ?_, ?_, ?_, ?_, ?_, ?_, ?_, ?_, ?_, ?_⟩⟩
  · exact List.mem_of_mem_take mem
  · exact failed
  · exact exchanged
  · exact cost
  · exact model
  · exact usage
  · exact answer
  · exact acquired
  · rw [Cascade.dispatchedKey, sentAll, List.getLast?_concat]
    have kept := ((source.router registry).executeRound_sent (cascadeRequest request) false before
      response.modelDef round (some key) (some key)).1
    rw [executed] at kept
    exact kept
  · rw [sentAll, List.flatMap_append, List.flatMap_singleton, madeReports, List.append_assoc]

/-- The cost a streamed route answers with is nothing, since no usage is known then. -/
theorem Answered.streamCost {response : CascadeRouteResponse}
    (answered : Answered source registry request response)
    (stream : request.stream = true) : response.costMicrodollars = 0 := by
  obtain ⟨-, noUsage, noCost, -⟩ :=
    UpstreamClient.chat_stream_ok (source.router registry).upstreamClient stream answered.exchanged
  rw [answered.cost, CascadeRouter.verifiedCost, noUsage, noCost]

/-- The cost any other route answers with is that of its final usage, whichever of
client and router computed it. -/
theorem Answered.plainCost {response : CascadeRouteResponse}
    (answered : Answered source registry request response)
    (plain : request.stream = false) :
    response.usage = response.response.usage ∧
      response.costMicrodollars = finalCost registry response := by
  obtain ⟨usage, cost⟩ :=
    UpstreamClient.chat_plain_ok (source.router registry).upstreamClient plain answered.exchanged
  refine ⟨by rw [answered.usage, usage, answered.answer], ?_⟩
  rw [answered.cost, finalCost, answered.answer, ← usage, answered.model,
    CascadeRouter.verifiedCost]
  cases found : answered.chatRes.usage with
  | none =>
    rcases cost with zero | ⟨usage', calculate, some, -⟩
    · exact zero
    · rw [found] at some
      cases some
  | some usage' =>
    simp only
    split
    · rfl
    · rename_i nonzero
      rcases cost with zero | ⟨usage'', calculate, same, calculator, computed⟩
      · exact absurd zero nonzero
      · rw [found] at same
        cases same
        cases source with
        | resolver => cases calculator
        | default =>
          cases calculator
          exact (Option.some.inj computed).symm

omit [Host] in
theorem usages_settle (response : CascadeRouteResponse) (usage : Option StreamUsage)
    {cost : Int} (positive : 0 < cost) (named : response.modelDef.id ≠ "")
    (books : Books) :
    usages (settle response usage cost request books).1 = [(response.modelDef.id, cost)] := by
  simp only [settle, positive, named, ne_eq, not_false_eq_true, and_self, ↓reduceIte]
  rfl

/-- The usage reports made before the worker's own. -/
def beforeWorker (cascade : Cascade) (response : CascadeRouteResponse) (stream : Bool) :
    List (String × Int) :=
  usages (cascade.sent.flatMap Sent.reports) ++
    if stream then usages response.response.onDone else []

/-- The last usage report of a completion is the worker's, on the model's id. -/
theorem usages_completion (books : Books) {response : CascadeRouteResponse}
    (answered : Answered source registry request response)
    (routed : (route (source.router registry) request).outcome = .ok response)
    (named : response.modelDef.id ≠ "") (positive : 0 < finalCost registry response) :
    usages (handleChatCompletions (source.router registry) request books).1 =
      beforeWorker (route (source.router registry) request) response request.stream ++
        [(response.modelDef.id, finalCost registry response)] := by
  unfold handleChatCompletions beforeWorker
  simp only [routed]
  cases stream : request.stream with
  | true =>
    simp only [↓reduceIte, usages_append]
    congr 1
    exact usages_settle response response.response.usage positive named books
  | false =>
    simp only [Bool.false_eq_true, ↓reduceIte, usages_append, List.append_nil]
    congr 1
    obtain ⟨-, cost⟩ := answered.plainCost stream
    rw [handleNonStreamingResponse, cost]
    exact usages_settle response response.usage positive named books

/-- The router's own usage report, when it has a key to name. -/
theorem usages_router (key : String) {cost : Int} (positive : 0 < cost) (named : key ≠ "") :
    usages ((source.router registry).reportsOn (some key)
      (CascadeRouter.successReports false cost)) = [(key, cost)] := by
  have kept : (some key).filter (· ≠ "") = some key := by simp [named]
  simp only [CascadeRouter.reportsOn, kept, RouterSource.router, ↓reduceIte,
    CascadeRouter.successReports, positive]
  rfl

/-- The default client reports the final cost of a stream it has read. -/
theorem usages_stream_default {response : CascadeRouteResponse}
    (answered : Answered .default registry request response) (stream : request.stream = true)
    (named : response.modelDef.id ≠ "") (key : answered.key ≠ "")
    (positive : 0 < finalCost registry response) :
    usages response.response.onDone = [(answered.key, finalCost registry response)] := by
  obtain ⟨-, -, -, keyId, apiKey, http, credential, read⟩ :=
    UpstreamClient.chat_stream_ok (RouterSource.default.router registry).upstreamClient stream
      answered.exchanged
  have sameKey : keyId = some answered.key := by
    have resolved := credential
    simp only [UpstreamClient.resolveCredential, RouterSource.router,
      CascadeRouter.defaultClient, CascadeRouter.upstreamRequest, and_true, Bool.false_eq_true,
      false_and, ↓reduceIte] at resolved
    split at resolved
    · split at resolved
      · cases resolved
      · exact (congrArg Prod.fst (Except.ok.inj resolved)).symm
    · split at resolved
      · exact (congrArg Prod.fst (Except.ok.inj resolved)).symm
      · exact (congrArg Prod.fst (Except.ok.inj resolved)).symm
  have usage : response.response.usage = streamUsage http.updates := by
    rw [answered.answer, read]
    rfl
  cases found : streamUsage http.updates with
  | none =>
    rw [finalCost, usage, found] at positive
    exact absurd positive (Int.lt_irrefl 0)
  | some final =>
    have kept : (some answered.key).filter (· ≠ "") = some answered.key := by simp [key]
    rw [finalCost, usage, found, answered.model, answered.answer, read]
    simp only [UpstreamClient.readStream, sameKey, UpstreamClient.reportsOn, kept, found,
      UpstreamClient.usageReports, RouterSource.router, CascadeRouter.defaultClient,
      CascadeRouter.upstreamRequest, named, ↓reduceIte]
    rfl

/-- Nothing is reported before the worker exactly when the completion is streamed and
the client has no calculator. -/
theorem beforeWorker_eq_nil_iff {response : CascadeRouteResponse}
    (answered : Answered source registry request response)
    (named : response.modelDef.id ≠ "") (key : answered.key ≠ "")
    (positive : 0 < finalCost registry response) :
    beforeWorker (route (source.router registry) request) response request.stream = [] ↔
      source = .resolver ∧ request.stream = true := by
  rw [beforeWorker, answered.reported]
  cases stream : request.stream with
  | false =>
    obtain ⟨-, cost⟩ := answered.plainCost stream
    have router : usages ((source.router registry).reportsOn (some answered.key)
        (CascadeRouter.successReports false response.costMicrodollars)) =
          [(answered.key, finalCost registry response)] := by
      rw [cost]
      exact usages_router answered.key positive key
    simp [router]
  | true =>
    have router : usages ((source.router registry).reportsOn (some answered.key)
        (CascadeRouter.successReports false response.costMicrodollars)) = [] := by
      rw [answered.streamCost stream]
      exact CascadeRouter.filterMap_reportsOn _ (fun _ => rfl) _
    cases source with
    | default => simp [usages_stream_default answered stream named key positive]
    | resolver =>
      have uncosted : (RouterSource.resolver.router registry).upstreamClient.costCalculator =
        none := rfl
      have exchange : usages answered.reports = [] := by
        have silent := UpstreamClient.usages_chat uncosted
          (CascadeRouter.upstreamRequest (cascadeRequest request) response.modelDef
            (some answered.key) (some answered.key)) answered.round.exchange
        rwa [answered.exchanged] at silent
      have done : usages response.response.onDone = [] := by
        obtain ⟨-, -, -, keyId, apiKey, http, -, read⟩ :=
          UpstreamClient.chat_stream_ok (RouterSource.resolver.router registry).upstreamClient
            stream answered.exchanged
        rw [answered.answer, read]
        exact UpstreamClient.usages_readStream uncosted _ keyId http
      have earlier : usages (answered.earlier.flatMap Sent.reports) = [] := by
        have silent := answered.failed
        generalize answered.earlier = failed at silent
        induction failed with
        | nil => rfl
        | cons made rest ih =>
          rw [List.flatMap_cons, usages_append,
            (RouterSource.resolver.router registry).usages_failed uncosted
              (silent made List.mem_cons_self),
            ih fun other mem => silent other (List.mem_cons_of_mem _ mem)]
          rfl
      simp [earlier, exchange, router, done]

/-- A completion of positive cost is reported exactly once, on the key that was
dispatched for it, if and only if it is streamed through the resolver's router and
that key has the model's id. -/
theorem usage_reported_once_iff (books : Books) {response : CascadeRouteResponse} {key : String}
    (routed : (route (source.router registry) request).outcome = .ok response)
    (dispatched : (route (source.router registry) request).dispatchedKey = some key)
    (named : ∀ candidate ∈ request.candidates, candidate.1.id ≠ "")
    (positive : 0 < finalCost registry response) :
    usages (handleChatCompletions (source.router registry) request books).1 =
        [(key, finalCost registry response)] ↔
      source = .resolver ∧ request.stream = true ∧ key = response.modelDef.id := by
  obtain ⟨answered⟩ := answered_of_ok routed
  obtain rfl : answered.key = key := Option.some.inj (answered.dispatched.symm.trans dispatched)
  have modelNamed : response.modelDef.id ≠ "" := named _ answered.candidate
  rw [usages_completion books answered routed modelNamed positive]
  constructor
  · intro once
    obtain ⟨nothing, last⟩ := List.append_eq_singleton_iff.mp once |>.resolve_right (by simp)
    have same : response.modelDef.id = answered.key := by simpa using last
    have key : answered.key ≠ "" := same ▸ modelNamed
    obtain ⟨resolver, stream⟩ :=
      (beforeWorker_eq_nil_iff answered modelNamed key positive).mp nothing
    exact ⟨resolver, stream, same.symm⟩
  · rintro ⟨resolver, stream, same⟩
    have key : answered.key ≠ "" := same ▸ modelNamed
    rw [(beforeWorker_eq_nil_iff answered modelNamed key positive).mpr ⟨resolver, stream⟩, same]
    rfl

end ChatHandler

end Completions

namespace ChatHandler

section Examples

attribute [local instance] asciiHost

/-- A model at one microdollar a prompt token. -/
def flash : ModelDef where
  id := "flash"
  provider := "groq"
  inputCostPerMTokMicro := 1000000
  outputCostPerMTokMicro := 0

def flashRegistry : ModelRegistry := ⟨IndexedMap.empty.set flash, .empty⟩

/-- The holder of acme's token. -/
def acmeContext : AuthMiddleware.AuthenticatedContext where
  tenantId := "acme"
  token :=
    { id := "tok"
      hashSha256 := ""
      tenantId := "acme"
      budgetMicrodollars := 0
      spentMicrodollars := 0
      allowedProviders := []
      rpmLimit := 60
      expiresAt := none }
  rpmLimit := (60 : Int)
  currentRpm := 1
  remainingRpm := (59 : Int)
  budgetMicrodollars := 0
  spentMicrodollars := 0

/-- A request that `flash` answers at once, on a key of the pool, with two tokens used. -/
def flashRequest (stream : Bool) (key : String) : ChatRequest where
  stream := stream
  auth := acmeContext
  traceId := "trace"
  latencyMs := 7
  candidates :=
    [(flash,
      { acquired := .ok key
        exchange :=
          { resolvedKey := .ok "gsk_1"
            fetch := .responded
              { status := 200
                json := .ok (some { promptTokens := some 2 })
                updates := [{ promptTokens := some 2 }] } } })]

def flashBooks : Books := ⟨[], IndexedMap.empty.set ⟨"tok", "acme", 0⟩⟩

theorem usage_reported_once_flash : ∃ response,
    (route (RouterSource.resolver.router flashRegistry) (flashRequest true "flash")).outcome =
      .ok response ∧
    (usages (handleChatCompletions (RouterSource.resolver.router flashRegistry)
        (flashRequest true "flash") flashBooks).1 = [("flash", finalCost flashRegistry response)] ↔
      RouterSource.resolver = .resolver ∧ (flashRequest true "flash").stream = true ∧
        "flash" = response.modelDef.id) :=
  ⟨_, rfl, usage_reported_once_iff flashBooks rfl (by decide) (by decide) (by decide)⟩

/-- Not streamed, the router reports the cost on the key and the worker again on the
model's id. -/
theorem usage_reported_twice : ∃ response,
    (route (RouterSource.resolver.router flashRegistry) (flashRequest false "k1")).outcome =
      .ok response ∧
    (route (RouterSource.resolver.router flashRegistry) (flashRequest false "k1")).dispatchedKey =
      some "k1" ∧
    finalCost flashRegistry response = 2 ∧
    usages (handleChatCompletions (RouterSource.resolver.router flashRegistry)
      (flashRequest false "k1") flashBooks).1 = [("k1", 2), ("flash", 2)] :=
  ⟨_, rfl, by decide, by decide, by decide⟩

end Examples

end ChatHandler

end KeyCollective
