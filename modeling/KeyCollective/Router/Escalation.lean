import KeyCollective.Router.Candidates

/-!
# Escalation

A cascade goes through the candidates it may try. Each round fails and is recorded, or ends the
cascade: with an answer, with the caller's cancellation, or before it has begun because the
caller is gone.
-/

namespace KeyCollective

section

variable [Host]

namespace CascadeRouter

variable (router : CascadeRouter) (request : CascadeRouteRequest)

inductive RoundVerdict where
  | aborted
  | answered
  | cancelled (failure : UpstreamFailure)
  | failed (failure : UpstreamFailure)
deriving DecidableEq

/-- How the round of a candidate ends. -/
def verdict (candidate : ModelDef) (round : Round) : RoundVerdict :=
  if round.abortedBefore then .aborted
  else match router.acquireKey request round with
    | .error message => .failed (.keyAcquisition message)
    | .ok (keyId, apiKey) =>
      match (router.upstreamClient.chat (upstreamRequest request candidate keyId apiKey)
          round.exchange).2 with
      | .ok _ => .answered
      | .error failure =>
        if failure.isAbort || round.abortedAfter then .cancelled failure else .failed failure

/-- What is recorded of a round that failed. -/
def attemptOf (entry : ModelDef × Round) : Option FallbackAttempt :=
  match router.verdict request entry.1 entry.2 with
  | .failed failure => some ⟨entry.1.provider, entry.1.id, failure⟩
  | _ => none

/-- The end of a cascade, behind its failed rounds, with the candidates that are left. -/
def Ends (outcome : Except CascadeError CascadeRouteResponse) (attempts : List FallbackAttempt) :
    List (ModelDef × Round) → Prop
  | [] => outcome = .error (.exhausted attempts)
  | (candidate, round) :: _ =>
    match router.verdict request candidate round with
    | .aborted => outcome = .error .aborted
    | .answered => ∃ response, outcome = .ok response ∧ response.modelDef = candidate ∧
        response.attempts = attempts
    | .cancelled failure => outcome = .error (.cancelled failure)
    | .failed _ => False

/-- The candidates that requests were sent to, of the round that ends a cascade. -/
def lastTried : List (ModelDef × Round) → List ModelDef
  | [] => []
  | (candidate, round) :: _ =>
    if router.verdict request candidate round = .aborted then [] else [candidate]

/-- Over the candidates to try, a cascade has failed rounds, each recorded once behind what was
recorded before, and an end. The requests it adds go to candidates tried, in their order. -/
structure Escalates (cascade : Cascade) (sent : List Sent) (before : List FallbackAttempt)
    (toTry failed rest : List (ModelDef × Round)) (attempts : List FallbackAttempt) : Prop where
  order : failed ++ rest = toTry
  recorded : failed.map (router.attemptOf request) = attempts.map some
  ends : router.Ends request cascade.outcome (before ++ attempts) rest
  sent : ∃ made, cascade.sent = sent ++ made ∧
    (made.map Sent.candidate).Sublist (failed.map Prod.fst ++ router.lastTried request rest)

variable {router request} {selfKeyRouted : Bool} {before : List FallbackAttempt}
  {candidate : ModelDef} {round : Round} {keyId apiKey : Option String}

theorem lastTried_subset (rest : List (ModelDef × Round)) :
    router.lastTried request rest ⊆ rest.map Prod.fst := by
  cases rest with
  | nil => exact List.nil_subset _
  | cons entry rest =>
    obtain ⟨candidate, round⟩ := entry
    simp only [lastTried]
    split
    · exact List.nil_subset _
    · exact List.cons_subset_cons _ (List.nil_subset _)

variable (selfKeyRouted before candidate) in
/-- The end of a round that sent a request is the verdict on it. -/
theorem executeRound_verdict (going : round.abortedBefore = false)
    (acquired : router.acquireKey request round = .ok (keyId, apiKey)) :
    match (router.executeRound request selfKeyRouted before candidate round keyId apiKey).2 with
    | .answered response => router.verdict request candidate round = .answered ∧
        response.modelDef = candidate ∧ response.attempts = before
    | .cancelled failure => router.verdict request candidate round = .cancelled failure
    | .failed failure => router.verdict request candidate round = .failed failure := by
  unfold executeRound verdict
  simp only [going, acquired, Bool.false_eq_true, if_false]
  rcases router.upstreamClient.chat (upstreamRequest request candidate keyId apiKey)
    round.exchange with ⟨reports, failure | chatRes⟩
  · simp only
    cases gives : failure.isAbort || round.abortedAfter with
    | true => rfl
    | false => rfl
  · exact ⟨rfl, rfl, rfl⟩

/-- A round that fails is recorded, and the cascade goes on. -/
theorem Escalates.cons {cascade : Cascade} {sent : List Sent} (made : List Sent)
    {toTry failed rest : List (ModelDef × Round)} {attempts : List FallbackAttempt}
    {failure : UpstreamFailure}
    (fails : router.verdict request candidate round = .failed failure)
    (sends : (made.map Sent.candidate).Sublist [candidate])
    (escalates : router.Escalates request cascade (sent ++ made)
      (before ++ [⟨candidate.provider, candidate.id, failure⟩]) toTry failed rest attempts) :
    router.Escalates request cascade sent before ((candidate, round) :: toTry)
      ((candidate, round) :: failed) rest
      (⟨candidate.provider, candidate.id, failure⟩ :: attempts) where
  order := by rw [List.cons_append, escalates.order]
  recorded := by
    have attempt : router.attemptOf request (candidate, round) =
        some ⟨candidate.provider, candidate.id, failure⟩ := by
      rw [attemptOf, fails]
    rw [List.map_cons, List.map_cons, attempt, escalates.recorded]
  ends := by
    have := escalates.ends
    rwa [List.append_assoc, List.singleton_append] at this
  sent := by
    obtain ⟨later, eq, sub⟩ := escalates.sent
    refine ⟨made ++ later, by rw [eq, List.append_assoc], ?_⟩
    rw [List.map_append]
    exact sends.append sub

/-- A round that does not fail ends the cascade. -/
theorem Escalates.last {cascade : Cascade} {sent : List Sent} (made : List Sent)
    {rest : List (ModelDef × Round)}
    (ends : router.Ends request cascade.outcome before ((candidate, round) :: rest))
    (all : cascade.sent = sent ++ made)
    (sends : (made.map Sent.candidate).Sublist
      (router.lastTried request ((candidate, round) :: rest))) :
    router.Escalates request cascade sent before ((candidate, round) :: rest) []
      ((candidate, round) :: rest) [] where
  order := rfl
  recorded := rfl
  ends := by rwa [List.append_nil]
  sent := ⟨made, all, sends⟩

theorem tryCandidates_escalates (toTry : List (ModelDef × Round)) (sent : List Sent)
    (before : List FallbackAttempt) :
    ∃ failed rest attempts,
      router.Escalates request (router.tryCandidates request selfKeyRouted toTry sent before) sent
        before toTry failed rest attempts := by
  induction toTry generalizing sent before with
  | nil =>
    exact ⟨[], [], [], rfl, rfl, congrArg _ (congrArg _ (List.append_nil before).symm),
      [], (List.append_nil sent).symm, List.Sublist.refl _⟩
  | cons entry toTry ih =>
    obtain ⟨candidate, round⟩ := entry
    unfold tryCandidates
    cases gone : round.abortedBefore with
    | true =>
      have aborted : router.verdict request candidate round = .aborted := by
        rw [verdict, gone, if_pos rfl]
      refine ⟨[], _, [], .last [] ?_ (List.append_nil sent).symm (List.nil_sublist _)⟩
      rw [Ends, aborted]
      rfl
    | false =>
      rw [if_neg (by decide)]
      cases acquired : router.acquireKey request round with
      | error message =>
        have fails :
            router.verdict request candidate round = .failed (.keyAcquisition message) := by
          rw [verdict, gone, if_neg (by decide), acquired]
        obtain ⟨failed, rest, attempts, escalates⟩ := ih sent
          (before ++ [⟨candidate.provider, candidate.id, .keyAcquisition message⟩])
        rw [← List.append_nil sent] at escalates
        have further := escalates.cons [] fails (List.nil_sublist _)
        rw [List.append_nil] at further
        exact ⟨_, rest, _, further⟩
      | ok keys =>
        obtain ⟨keyId, apiKey⟩ := keys
        have ended := executeRound_verdict selfKeyRouted before candidate gone acquired
        have model := (router.executeRound_sent request selfKeyRouted before candidate round keyId
          apiKey).2
        simp only
        rcases executed : router.executeRound request selfKeyRouted before candidate round keyId
          apiKey with ⟨made, response | failure | failure⟩
        all_goals rw [executed] at ended model
        · obtain ⟨answered, own, recorded⟩ := ended
          refine ⟨[], _, [], .last [made] ?_ rfl ?_⟩
          · rw [Ends, answered]
            exact ⟨response, rfl, own, recorded⟩
          · rw [lastTried, answered, if_neg (by decide), List.map_singleton, model]
        · refine ⟨[], _, [], .last [made] ?_ rfl ?_⟩
          · rw [Ends, ended]
          · rw [lastTried, ended, if_neg (by simp), List.map_singleton, model]
        · obtain ⟨failed, rest, attempts, escalates⟩ := ih (sent ++ [made])
            (before ++ [⟨candidate.provider, candidate.id, failure⟩])
          refine ⟨_, rest, _, escalates.cons [made] ended ?_⟩
          rw [List.map_singleton, model]

/-- What a cascade does is decided by the rounds of the candidates it may try. -/
theorem executeCascadeRouting_escalates (router : CascadeRouter) (request : CascadeRouteRequest)
    (selfKeyAvailable : Bool) (candidates : List (ModelDef × Round)) :
    ∃ failed rest attempts,
      router.Escalates request (router.executeCascadeRouting request selfKeyAvailable candidates)
        [] [] (candidates.take (1 + request.maxFallbacks.getD router.maxFallbacks)) failed rest
        attempts :=
  tryCandidates_escalates _ [] []

end CascadeRouter

end

/-! ## The order of the candidates -/

section

variable [Host] [Collation] [NumberText]

/-- The candidates of a request: distinct models that are active and capable, all there are. Those
of a generic name are sorted. Otherwise the capable model named comes first, then the capable
fallbacks requested, each at its first place, and then the rest, sorted. -/
structure InOrder (context : CandidateResolutionContext) (request : ChatRouteRequest)
    (candidates : List ModelDef) : Prop where
  nonempty : candidates ≠ []
  distinct : (candidates.map ModelDef.id).Nodup
  audited : ∀ model ∈ candidates, model.isActive = true ∧
    isCapable model (CandidateResolutionContext.requirements request) = true
  complete : ∀ model ∈ context.registry.getAllModels true,
    isCapable model (CandidateResolutionContext.requirements request) = true → model ∈ candidates
  order :
    if isGenericRoutingKeyword (trim request.modelAlias) then candidates = context.capable request
    else ∃ chosen rest, candidates = context.target request ++ chosen ++ rest ∧
      context.target request ++ chosen =
        FirstOccurrences.firsts ModelDef.id (context.target request ++ context.requested request) ∧
      rest.Sublist (context.capable request)
  sorted : (context.capable request).Pairwise (Precedes context.strategy)

namespace CandidateResolutionContext

variable {context : CandidateResolutionContext} {request : ChatRouteRequest}
  {candidates : List ModelDef}

omit [Collation] in
/-- At most one model is named. -/
theorem firsts_target (context : CandidateResolutionContext) (request : ChatRouteRequest) :
    FirstOccurrences.firsts ModelDef.id (context.target request) = context.target request := by
  refine FirstOccurrences.firsts_eq_self ?_
  unfold target
  split
  · exact List.nodup_nil
  · have sub : ((context.registry.resolveModel (trim request.modelAlias)).toList.filter
        (isCapable · (requirements request))).Sublist
        (context.registry.resolveModel (trim request.modelAlias)).toList := List.filter_sublist
    refine (sub.map ModelDef.id).nodup ?_
    cases context.registry.resolveModel (trim request.modelAlias) with
    | none => exact List.nodup_nil
    | some model => exact List.nodup_singleton _

theorem resolveCandidates_inOrder [Std.TransCmp Collation.localeCompare]
    (resolved : context.resolveCandidates request = .ok candidates) :
    InOrder context request candidates := by
  obtain ⟨-, eq, nonempty⟩ := resolveCandidates_ok_iff.mp resolved
  have member {model : ModelDef} (mem : model ∈ candidates) : model ∈ context.capable request := by
    rw [eq] at mem
    exact mem_sources.mp (FirstOccurrences.mem_of_firsts mem)
  exact
    { nonempty
      distinct := eq ▸ FirstOccurrences.firsts_nodup _
      audited := fun model mem =>
        have audited := (mem_capable.mp (member mem)).2
        ⟨isActive_of_capable audited, audited⟩
      complete := by
        intro model mem audited
        have present : model ∈ context.sources request :=
          mem_sources.mpr (mem_capable.mpr ⟨mem, audited⟩)
        rw [eq]
        refine FirstOccurrences.mem_firsts present fun other source same => ?_
        exact ModelRegistry.model_unique (registry_of_mem_capable (mem_sources.mp present))
          (registry_of_mem_capable (mem_sources.mp source)) same
      order := by
        rw [eq, sources]
        split
        case isTrue =>
          exact FirstOccurrences.firsts_eq_self (capable_nodup context request)
        case isFalse =>
          have named := firsts_target context request
          obtain ⟨chosen, first, -⟩ := FirstOccurrences.pushAll_added ModelDef.id
            (context.target request) (context.requested request)
          obtain ⟨rest, last, sub⟩ := FirstOccurrences.pushAll_added ModelDef.id
            (context.target request ++ chosen) (context.capable request)
          rw [FirstOccurrences.firsts] at named
          refine ⟨chosen, rest, ?_, ?_, sub⟩
          · rw [FirstOccurrences.firsts, FirstOccurrences.pushAll_append,
              FirstOccurrences.pushAll_append, named, first, last]
          · rw [FirstOccurrences.firsts, FirstOccurrences.pushAll_append, named, first]
      sorted := sortCandidates_sorted _ _ }

/-- **Candidates and cascade**: the candidates of a request stand in order, and a cascade over
them tries the primary and then the selected fallbacks, at most `1 + maxFallbacks` in all, records
each round that fails once, and ends with the first that does not. -/
theorem candidates_cascade [Std.TransCmp Collation.localeCompare]
    (resolved : context.resolveCandidates request = .ok candidates) (router : CascadeRouter)
    (selfKeyAvailable : Bool) (rounds : List (ModelDef × Round))
    (paired : rounds.map Prod.fst = candidates) :
    InOrder context request candidates ∧
      ∃ primary failed rest attempts,
        selectPrimaryCandidate candidates = some primary ∧
        (failed ++ rest).map Prod.fst = primary :: selectFallbackCandidates candidates
          (request.maxFallbacks.getD router.maxFallbacks) ∧
        (failed ++ rest).length ≤ 1 + request.maxFallbacks.getD router.maxFallbacks ∧
        router.Escalates request.toCascadeRouteRequest
          (router.executeCascadeRouting request.toCascadeRouteRequest selfKeyAvailable rounds)
          [] [] (failed ++ rest) failed rest attempts := by
  have inOrder := resolveCandidates_inOrder resolved
  refine ⟨inOrder, ?_⟩
  obtain ⟨failed, rest, attempts, escalates⟩ := router.executeCascadeRouting_escalates
    request.toCascadeRouteRequest selfKeyAvailable rounds
  obtain ⟨primary, others, eq⟩ := List.exists_cons_of_ne_nil inOrder.nonempty
  refine ⟨primary, failed, rest, attempts, ?_, ?_, ?_, ?_⟩
  · rw [eq]
    rfl
  · rw [escalates.order, List.map_take, paired, eq, Nat.add_comm, List.take_succ_cons]
    rfl
  · rw [escalates.order]
    exact List.length_take_le _ _
  · rw [escalates.order]
    exact escalates

end CandidateResolutionContext

end

/-! ## A request that is routed -/

section Example

attribute [local instance] asciiHost codePointCollation integerText

def chatModel (id : String) (cost : Int) : ModelDef :=
  { ModelRegistry.groqModel id [] cost true with contextWindow := 8192, maxOutputTokens := 1024 }

/-- Two models, of which `llama` is the cheaper. -/
def twoModels : CandidateResolutionContext where
  registry := .run [.registerModel (chatModel "gemma" 2), .registerModel (chatModel "llama" 1)]

def fallbackRequest (modelAlias fallback : String) : ChatRouteRequest where
  stream := false
  modelAlias
  messages := []
  fallbackModels := some [fallback]

/-- Behind a generic name the fallback asked for does not come first. -/
theorem generic_ignores_fallbacks :
    twoModels.resolveCandidates (fallbackRequest "auto" "gemma") =
        .ok [chatModel "llama" 1, chatModel "gemma" 2] ∧
      ¬∃ chosen rest, [chatModel "llama" 1, chatModel "gemma" 2] =
          twoModels.target (fallbackRequest "auto" "gemma") ++ chosen ++ rest ∧
        twoModels.target (fallbackRequest "auto" "gemma") ++ chosen =
          FirstOccurrences.firsts ModelDef.id (twoModels.target (fallbackRequest "auto" "gemma") ++
            twoModels.requested (fallbackRequest "auto" "gemma")) := by
  have asked : FirstOccurrences.firsts ModelDef.id
      (twoModels.target (fallbackRequest "auto" "gemma") ++
        twoModels.requested (fallbackRequest "auto" "gemma")) = [chatModel "gemma" 2] := by
    decide +kernel
  refine ⟨by decide +kernel, ?_⟩
  rintro ⟨chosen, rest, first, chosen_eq⟩
  rw [chosen_eq, asked] at first
  have same : chatModel "llama" 1 = chatModel "gemma" 2 := (List.cons.inj first).1
  exact absurd same (by decide)

def twoModelsRouter : CascadeRouter where
  registry := twoModels.registry
  upstreamClient := CascadeRouter.defaultClient twoModels.registry true
  hasKeyPool := true

/-- No key for `gemma`, and an answer from `llama`. -/
def twoRounds : List (ModelDef × Round) :=
  [(chatModel "gemma" 2,
      { acquired := .error "exhausted"
        exchange := { resolvedKey := .error "", fetch := .failed true } }),
    (chatModel "llama" 1,
      { acquired := .ok "gsk_1"
        exchange := { resolvedKey := .ok "gsk_1", fetch := .responded { status := 200 } } })]

theorem candidates_cascade_gemma :
    InOrder twoModels (fallbackRequest "gemma" "llama")
        [chatModel "gemma" 2, chatModel "llama" 1] ∧
      ∃ primary failed rest attempts,
        selectPrimaryCandidate [chatModel "gemma" 2, chatModel "llama" 1] = some primary ∧
        (failed ++ rest).map Prod.fst = primary ::
          selectFallbackCandidates [chatModel "gemma" 2, chatModel "llama" 1] 5 ∧
        (failed ++ rest).length ≤ 1 + 5 ∧
        twoModelsRouter.Escalates (fallbackRequest "gemma" "llama").toCascadeRouteRequest
          (twoModelsRouter.executeCascadeRouting
            (fallbackRequest "gemma" "llama").toCascadeRouteRequest false twoRounds)
          [] [] (failed ++ rest) failed rest attempts :=
  CandidateResolutionContext.candidates_cascade (by decide +kernel) twoModelsRouter false twoRounds
    rfl

end Example

end KeyCollective
