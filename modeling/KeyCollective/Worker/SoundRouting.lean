import KeyCollective.Worker.ChatBody

/-!
# Sound routing

Every request that is sent should suit the model it is sent to. The audit sees to the
capabilities. It does not see the limit the endpoint passes on, which goes by a name the audit
does not read, nor the limit a router or a provider sets by default, and its estimate leaves out
tools and functions. So what decides is whether a model the audit lets through has room for them.
-/

namespace KeyCollective

section

variable [Host] [Collation] [NumberText]

namespace CandidateResolutionContext

variable {context : CandidateResolutionContext} {request : ChatRouteRequest} {model : ModelDef}

/-- A serviceable request may be routed to every capable model. -/
theorem resolveCandidates_serviceable (serviceable : Serviceable context request)
    (present : model ∈ context.capable request) :
    ∃ candidates, context.resolveCandidates request = .ok candidates ∧ model ∈ candidates := by
  have listed : model ∈ FirstOccurrences.firsts ModelDef.id (context.sources request) := by
    refine FirstOccurrences.mem_firsts (mem_sources.mpr present) fun other source same => ?_
    exact ModelRegistry.model_unique (registry_of_mem_capable present)
      (registry_of_mem_capable (mem_sources.mp source)) same
  exact ⟨_, resolveCandidates_ok_iff.mpr ⟨serviceable, rfl, List.ne_nil_of_mem listed⟩, listed⟩

end CandidateResolutionContext

/-! ## A cascade that tries every candidate -/

namespace CascadeRouter

/-- A round whose request is answered with a server error. -/
def serverError : Round where
  acquired := .ok "gsk_1"
  exchange := { resolvedKey := .ok "gsk_1", fetch := .responded { status := 500 } }

def persistentRouter (registry : ModelRegistry) (maxFallbacks : Nat) : CascadeRouter where
  registry
  upstreamClient := defaultClient registry true
  hasKeyPool := true
  maxFallbacks

variable {request : CascadeRouteRequest}

omit [Collation] [NumberText] in
theorem executeRound_serverError (registry : ModelRegistry) (maxFallbacks : Nat)
    (request : CascadeRouteRequest) (selfKeyRouted : Bool)
    (attempts : List FallbackAttempt) (candidate : ModelDef) :
    ((persistentRouter registry maxFallbacks).executeRound request selfKeyRouted attempts candidate
      serverError (some "gsk_1") (some "gsk_1")).2 = .failed (.status 500) := by
  have set : (some "gsk_1").filter (fun key => !decide (key = "")) = some "gsk_1" := by decide
  have named : (some "gsk_1").all isBlank = false := by decide
  simp [executeRound, UpstreamClient.chat, UpstreamClient.send, UpstreamClient.resolveCredential,
    upstreamRequest, persistentRouter, defaultClient, serverError, set, named, HttpResponse.ok,
    UpstreamFailure.isAbort]

omit [Collation] [NumberText] in
/-- Every candidate is sent the request when each answers with a server error. -/
theorem tryCandidates_serverErrors (registry : ModelRegistry) (maxFallbacks : Nat)
    (keyless : request.apiKey = none) (selfKeyRouted : Bool)
    (candidates : List ModelDef) (sent : List Sent) (attempts : List FallbackAttempt) :
    ((persistentRouter registry maxFallbacks).tryCandidates request selfKeyRouted
      (candidates.map (·, serverError)) sent attempts).sent.map Sent.candidate =
        sent.map Sent.candidate ++ candidates := by
  induction candidates generalizing sent attempts with
  | nil => simp [tryCandidates]
  | cons candidate rest ih =>
    have acquired : (persistentRouter registry maxFallbacks).acquireKey request serverError =
        .ok (some "gsk_1", some "gsk_1") := by
      simp [acquireKey, keyless, isFalsy, persistentRouter, serverError]
    have ended := executeRound_serverError registry maxFallbacks request selfKeyRouted attempts
      candidate
    have asked := ((persistentRouter registry maxFallbacks).executeRound_sent request selfKeyRouted
      attempts candidate serverError (some "gsk_1") (some "gsk_1")).2
    rw [List.map_cons, tryCandidates, if_neg (by decide)]
    simp only [acquired]
    cases executed : (persistentRouter registry maxFallbacks).executeRound request selfKeyRouted
        attempts candidate serverError (some "gsk_1") (some "gsk_1") with
    | mk made ending =>
      rw [executed] at ended asked
      simp only at ended asked
      simp only [ended]
      rw [ih, List.map_append, List.map_singleton, asked, List.append_assoc,
        List.singleton_append]

end CascadeRouter

/-! ## Where the audit is blind -/

namespace ChatHandler

open CandidateResolutionContext

variable (context : CandidateResolutionContext) (defaultMaxTokens : Option Number)

/-- The active models that pass the audit of a request and have no room for it. -/
def blindSpot (request : ChatRouteRequest) : List ModelDef :=
  (context.registry.getAllModels true).filter fun model =>
    isCapable model (requirements request) ∧
      ¬HasRoom model (request.dispatched defaultMaxTokens model)

/-- The request of a body, if it is routed at all, is sent to models that suit it, whatever
happens in the rounds. -/
def RoutesSoundly (body : Json) : Prop :=
  ∀ request candidates, routeRequestOf body = .ok request →
    context.resolveCandidates request = .ok candidates →
      ∀ (router : CascadeRouter) (selfKeyAvailable : Bool) (rounds : List (ModelDef × Round)),
        rounds.map Prod.fst = candidates →
          ∀ made ∈ (router.executeCascadeRouting request.toCascadeRouteRequest selfKeyAvailable
              rounds).sent,
            Suits made.candidate (request.dispatched defaultMaxTokens made.candidate)

omit [Host] [Collation] in
theorem auditedPromptTokens_natural (request : ChatRouteRequest) (estimate : Nat) :
    request.auditedPromptTokens (some (.finite estimate)) = .finite estimate := by
  simp [ChatRouteRequest.auditedPromptTokens, Option.filter, Number.atLeast, Number.trunc]

omit [Collation] in
/-- A request of messages alone, with no limit on its answer, is audited for all that is sent. -/
theorem blindSpot_messages {body : Json} {request : ChatRouteRequest}
    (routed : routeRequestOf body = .ok request)
    (unlimited : request.attemptMaxTokens none = none)
    (elsewhere : ∀ model ∈ context.registry.getAllModels true,
      Host.toLowerCase model.provider ≠ "anthropic")
    (toolless : request.tools = none) (functionless : request.functions = none)
    (unestimated : body.getNumber "estimatedPromptTokens" = none)
    (some : request.messages ≠ []) :
    blindSpot context none request = [] := by
  rw [blindSpot, List.filter_eq_nil_iff]
  intro model active blind
  obtain ⟨audited, cramped⟩ := of_decide_eq_true blind
  have limit : (request.dispatched none model).maxTokens = none := by
    unfold ChatRouteRequest.dispatched
    simp only [if_neg (elsewhere model active), unlimited]
  have tokens : (request.dispatched none model).promptTokens = estimateItems request.messages := by
    simp [ChatRouteRequest.dispatched, DispatchedBody.promptTokens, toolless, functionless]
  have estimate : request.estimatedPromptTokens =
      Option.some (.finite (estimateItems request.messages)) := by
    rw [(routeRequestOf_endpoint routed).estimated, estimateOf, unestimated]
    simp [some]
  have positive : 0 < estimateItems request.messages := by
    cases nonempty : request.messages with
    | nil => exact absurd nonempty some
    | cons message rest =>
      rw [estimateItems]
      omega
  apply cramped
  constructor
  · rw [limit]
    intro limit set
    cases set
  · have fits := ((isCapable_iff model _).mp audited).2.2.2.2.1
    have asked : (requirements request).minContextLength =
        Option.some (.finite (estimateItems request.messages)) := by
      simp [requirements, ChatRouteRequest.extractRequirements,
        (routeRequestOf_endpoint routed).unaudited, estimate, auditedPromptTokens_natural, Number.add, Number.isPositive, positive]
    rw [limit, tokens]
    simp only [asked, exceeds, Number.isPositive, Number.above] at fits
    simpa [Number.add, Number.atMost, positive] using fits

omit [Collation] [NumberText] in
/-- Every candidate of a request may be sent it. -/
theorem sent_of_candidate (request : ChatRouteRequest) (keyless : request.apiKey = none)
    (unbounded : request.maxFallbacks = none) {candidates : List ModelDef} {model : ModelDef}
    (mem : model ∈ candidates) :
    ∃ made ∈ ((CascadeRouter.persistentRouter context.registry
        candidates.length).executeCascadeRouting request.toCascadeRouteRequest false
        (candidates.map (·, CascadeRouter.serverError))).sent,
      made.candidate = model := by
  have all : (candidates.map (·, CascadeRouter.serverError)).take (1 + candidates.length) =
      candidates.map (·, CascadeRouter.serverError) :=
    List.take_of_length_le (by rw [List.length_map]; omega)
  have asked := CascadeRouter.tryCandidates_serverErrors context.registry candidates.length keyless
    (!isFalsy request.tenantId && !(candidates.map (·, CascadeRouter.serverError)).isEmpty && false)
    candidates [] []
  have mem_asked : model ∈ [].map Sent.candidate ++ candidates := mem
  rw [← asked] at mem_asked
  unfold CascadeRouter.executeCascadeRouting
  rw [unbounded]
  simp only [CascadeRouter.persistentRouter, Option.getD_none, all]
  exact List.mem_map.mp mem_asked

omit [Collation] [NumberText] in
/-- Only candidates are sent a request. -/
theorem candidate_of_sent {router : CascadeRouter} {request : CascadeRouteRequest}
    {selfKeyAvailable : Bool} {rounds : List (ModelDef × Round)} {made : Sent}
    (mem : made ∈ (router.executeCascadeRouting request selfKeyAvailable rounds).sent) :
    made.candidate ∈ rounds.map Prod.fst := by
  obtain ⟨failed, rest, attempts, escalates⟩ :=
    router.executeCascadeRouting_escalates request selfKeyAvailable rounds
  obtain ⟨later, all, sub⟩ := escalates.sent
  rw [all, List.nil_append] at mem
  have tried := sub.subset (List.mem_map_of_mem mem)
  have within : (failed ++ rest).map Prod.fst ⊆ rounds.map Prod.fst := by
    rw [escalates.order]
    exact List.map_subset _ (List.take_subset _ _)
  apply within
  rw [List.map_append]
  obtain failing | last := List.mem_append.mp tried
  · exact List.mem_append_left _ failing
  · exact List.mem_append_right _ (CascadeRouter.lastTried_subset rest last)

/-- Routing is sound for a body when the registry has no model in the blind spot of its request,
and only then: a model there is a candidate, and every candidate may be sent the request. -/
theorem routesSoundly_iff (body : Json) :
    RoutesSoundly context defaultMaxTokens body ↔
      ∀ request, routeRequestOf body = .ok request → Serviceable context request →
        blindSpot context defaultMaxTokens request = [] := by
  constructor
  · intro sound request routed serviceable
    rw [blindSpot, List.filter_eq_nil_iff]
    intro model active blind
    obtain ⟨audited, cramped⟩ := of_decide_eq_true blind
    obtain ⟨candidates, resolved, mem⟩ :=
      resolveCandidates_serviceable serviceable (mem_capable.mpr ⟨active, audited⟩)
    have endpoint := routeRequestOf_endpoint routed
    obtain ⟨made, sent, rfl⟩ :=
      sent_of_candidate context request endpoint.keyless endpoint.unbounded mem
    have own : (candidates.map (·, CascadeRouter.serverError)).map Prod.fst = candidates := by
      rw [List.map_map]
      exact List.map_id candidates
    exact cramped (sound request candidates routed resolved _ false _ own made sent).room
  · intro seeing request candidates routed resolved router selfKeyAvailable rounds own made sent
    have candidate := candidate_of_sent sent
    obtain ⟨serviceable, firsts, -⟩ := resolveCandidates_ok_iff.mp resolved
    rw [own, firsts] at candidate
    obtain ⟨active, audited⟩ :=
      mem_capable.mp (mem_sources.mp (FirstOccurrences.mem_of_firsts candidate))
    refine suits_of_capable audited ?_
    have empty := seeing request routed serviceable
    rw [blindSpot, List.filter_eq_nil_iff] at empty
    by_contra cramped
    exact empty _ active (decide_eq_true ⟨audited, cramped⟩)

end ChatHandler

end

/-! ## A limit that is not audited -/

section Example

attribute [local instance] asciiHost codePointCollation integerText

/-- A body that asks for a longer answer than `llama` can give. -/
def longAnswerBody : Json :=
  .object [("model", .string "llama"),
    ("messages", .array [.object [("role", .string "user"), ("content", .string "hi")]]),
    ("max_tokens", .number (.finite 4096))]

def longAnswerRequest : ChatRouteRequest where
  stream := false
  modelAlias := "llama"
  messages := [.object [("role", .string "user"), ("content", .string "hi")]]
  maxTokens := some (.finite 4096)
  estimatedPromptTokens := some (.finite 10)

/-- `llama`, which gives out at most 1024 tokens, is asked for 4096. -/
theorem longAnswer_unsound : ¬ChatHandler.RoutesSoundly twoModels none longAnswerBody := by
  intro sound
  have routed : ChatHandler.routeRequestOf longAnswerBody = .ok longAnswerRequest := by rfl
  have resolved : twoModels.resolveCandidates longAnswerRequest =
      .ok [chatModel "llama" 1, chatModel "gemma" 2] := by decide +kernel
  have llama : chatModel "llama" 1 ∈ [chatModel "llama" 1, chatModel "gemma" 2] := by decide
  obtain ⟨made, sent, asked⟩ :=
    ChatHandler.sent_of_candidate twoModels longAnswerRequest rfl rfl llama
  have suits := sound _ _ routed resolved _ false _ rfl made sent
  rw [asked] at suits
  have short := suits.room.output (.finite 4096) (by decide)
  exact absurd short (by decide)

end Example

end KeyCollective
