import KeyCollective.Lib.FirstOccurrences
import KeyCollective.Router.Requirements

/-!
# Candidates

The models a request may be routed to, in the order they are tried. A generic name stands for
every capable model, the cheapest first. Any other name stands for its model, behind which come
the fallbacks asked for and then the rest.
-/

namespace KeyCollective

inductive RoutingError where
  | contextWindowExceeded (modelId : String) (contextWindow : Int) (required : Number)
  | capabilityMismatch (missingCapabilities : List String) (message : String)
      (candidateModel : Option String)
  | modelNotFound (modelAlias message : String) (availableModels : List String)
  | noAvailableProvider (message : String)
deriving DecidableEq

section

variable [Host] [Collation] [NumberText]

/-- The filter works over the same registry. -/
structure CandidateResolutionContext where
  registry : ModelRegistry
  sortBy : Option ModelSortStrategy := none
  fallbackModels : Option (List String) := none
  allowMismatchEscalation : Bool := false

def isGenericRoutingKeyword (modelAlias : String) : Bool :=
  cleanName modelAlias ∈ ["", "auto", "cheapest", "default", "cascade"]

def getCapabilityNames (reqs : CapabilityRequirements) : List String :=
  let named (condition : Bool) (capability : String) := if condition then [capability] else []
  named reqs.requiresTools "tools" ++ named reqs.requiresVision "vision" ++
    named reqs.requiresJsonSchema "json_schema" ++
    named (reqs.minContextLength.any Number.isPositive) "context_length" ++
    named (reqs.maxOutputTokens.any Number.isPositive) "max_output_tokens"

/-- The models of the registry that pass the audit, sorted. -/
def filterRegistry (registry : ModelRegistry) (requirements : CapabilityRequirements)
    (sortBy : ModelSortStrategy) : List ModelDef :=
  sortCandidates
    ((registry.getAllModels (requirements.onlyActive.getD true)).filter (isCapable · requirements))
    sortBy

namespace CandidateResolutionContext

variable (context : CandidateResolutionContext) (request : ChatRouteRequest)

def requirements : CapabilityRequirements :=
  request.extractRequirements request.estimatedPromptTokens

def strategy : ModelSortStrategy := context.sortBy.getD .costAsc

/-- The capable models, sorted. -/
def capable : List ModelDef := filterRegistry context.registry (requirements request) context.strategy

/-- `reqOptions.fallbackModels ?? context.fallbackModels ?? []`. -/
def explicitFallbacks : List String :=
  (request.fallbackModels.or context.fallbackModels).getD []

/-- A fallback is added when it names a capable model that is not there yet. -/
def addFallback (candidates : List ModelDef) (fallbackIdOrAlias : String) : List ModelDef :=
  match context.registry.resolveModel fallbackIdOrAlias with
  | some fallbackModel =>
    if isCapable fallbackModel (requirements request) then
      FirstOccurrences.push ModelDef.id candidates fallbackModel
    else candidates
  | none => candidates

def resolveCandidates : Except RoutingError (List ModelDef) :=
  let modelAlias := trim request.modelAlias
  let requirements := requirements request
  if isGenericRoutingKeyword modelAlias then
    let candidates := context.capable request
    if candidates.isEmpty then
      let missingCaps := getCapabilityNames requirements
      if missingCaps ≠ [] then
        .error (.capabilityMismatch missingCaps
          ("No available model satisfied required capabilities: [" ++
            ", ".intercalate missingCaps ++ "]") none)
      else .error (.noAvailableProvider
        "No active models found in registry to fulfill routing request")
    else .ok candidates
  else match context.registry.resolveModel modelAlias with
  | none =>
    .error (.modelNotFound modelAlias ("Model or alias '" ++ modelAlias ++ "' not found in registry")
      ((context.registry.getAllModels true).map ModelDef.id))
  | some targetModel =>
    let audit := checkCapabilities targetModel requirements
    if !audit.isCapable ∧ "context_length" ∈ audit.missingCapabilities then
      .error (.contextWindowExceeded targetModel.id targetModel.contextWindow
        (requirements.minContextLength.getD (.finite 0)))
    else if !audit.isCapable ∧ !context.allowMismatchEscalation then
      .error (.capabilityMismatch audit.missingCapabilities
        ("Model '" ++ targetModel.id ++ "' does not satisfy required capabilities: [" ++
          ", ".intercalate audit.missingCapabilities ++ "]") (some targetModel.id))
    else
      let candidates := if audit.isCapable then [targetModel] else []
      let candidates := (context.explicitFallbacks request).foldl (context.addFallback request)
        candidates
      let candidates := FirstOccurrences.pushAll ModelDef.id candidates (context.capable request)
      if candidates.isEmpty then
        .error (.capabilityMismatch audit.missingCapabilities
          "No capable candidate models available for request" none)
      else .ok candidates

end CandidateResolutionContext

def selectPrimaryCandidate (candidates : List ModelDef) : Option ModelDef := candidates.head?

def selectFallbackCandidates (candidates : List ModelDef) (maxFallbacks : Nat) : List ModelDef :=
  (candidates.drop 1).take maxFallbacks

/-! ## Models of the registry -/

namespace ModelRegistry

variable {registry : ModelRegistry} {model other : ModelDef}

omit [Collation] [NumberText] in
theorem resolveModel_mem {name : String} {onlyActive : Bool}
    (found : registry.resolveModel name onlyActive = some model) :
    model ∈ registry.models.values := by
  simp only [resolveModel] at found
  split at found
  case h_1 direct get =>
    split at found
    case isTrue => cases found
    case isFalse =>
      cases found
      exact (IndexedMap.get?_some get).1
  case h_2 =>
    split at found
    case h_1 => cases found
    case h_2 =>
      split at found
      case h_1 get =>
        split at found
        case isTrue => cases found
        case isFalse =>
          cases found
          exact (IndexedMap.get?_some get).1
      case h_2 => cases found

omit [Collation] [NumberText] in
/-- An id names one model. -/
theorem model_unique (mem : model ∈ registry.models.values) (mem' : other ∈ registry.models.values)
    (same : other.id = model.id) : other = model := by
  have first := IndexedMap.get?_of_mem mem
  have second := IndexedMap.get?_of_mem mem'
  rw [modelKey, same, ← modelKey, first] at second
  exact (Option.some.inj second).symm

omit [Collation] [NumberText] in
theorem ids_nodup (registry : ModelRegistry) : (registry.models.values.map ModelDef.id).Nodup := by
  have keys : ((registry.models.values.map ModelDef.id).map cleanName).Nodup := by
    rw [List.map_map]
    exact registry.models.distinct
  exact keys.of_map

omit [Collation] [NumberText] in
theorem getAllModels_sublist (registry : ModelRegistry) (onlyActive : Bool) :
    (registry.getAllModels onlyActive).Sublist registry.models.values := by
  unfold getAllModels
  split
  · exact List.filter_sublist
  · exact List.Sublist.refl _

end ModelRegistry

/-! ## The list of candidates -/

namespace CandidateResolutionContext

variable (context : CandidateResolutionContext) (request : ChatRouteRequest)

/-- The capable models the fallbacks name, as they are asked for. -/
def requested : List ModelDef :=
  ((context.explicitFallbacks request).filterMap fun name => context.registry.resolveModel name).filter
    (isCapable · (requirements request))

/-- The capable model the request names, if it does. -/
def target : List ModelDef :=
  if isGenericRoutingKeyword (trim request.modelAlias) then []
  else (context.registry.resolveModel (trim request.modelAlias)).toList.filter
    (isCapable · (requirements request))

variable {context request} {model : ModelDef}

theorem mem_capable : model ∈ context.capable request ↔
    model ∈ context.registry.getAllModels true ∧ isCapable model (requirements request) = true := by
  rw [capable, filterRegistry, mem_sortCandidates, List.mem_filter]
  rfl

omit [Collation] in
/-- A model that passes the audit is active. -/
theorem isActive_of_capable (audited : isCapable model (requirements request) = true) :
    model.isActive = true :=
  ((isCapable_iff model _).mp audited).1 rfl

/-- A capable model of the registry is among the capable models. -/
theorem mem_capable_of_mem (mem : model ∈ context.registry.models.values)
    (audited : isCapable model (requirements request) = true) : model ∈ context.capable request :=
  mem_capable.mpr ⟨List.mem_filter.mpr ⟨mem, isActive_of_capable audited⟩, audited⟩

theorem registry_of_mem_capable (mem : model ∈ context.capable request) :
    model ∈ context.registry.models.values :=
  (context.registry.getAllModels_sublist true).subset (mem_capable.mp mem).1

theorem capable_nodup (context : CandidateResolutionContext) (request : ChatRouteRequest) :
    ((context.capable request).map ModelDef.id).Nodup := by
  have sub : ((context.registry.getAllModels true).filter
      (isCapable · (requirements request))).Sublist context.registry.models.values :=
    List.filter_sublist.trans (context.registry.getAllModels_sublist true)
  have distinct := (sub.map ModelDef.id).nodup context.registry.ids_nodup
  exact ((sortCandidates_perm _ context.strategy).map ModelDef.id).nodup_iff.mpr distinct

theorem requested_capable (mem : model ∈ context.requested request) :
    model ∈ context.capable request := by
  obtain ⟨resolved, audited⟩ := List.mem_filter.mp mem
  obtain ⟨name, -, found⟩ := List.mem_filterMap.mp resolved
  exact mem_capable_of_mem (ModelRegistry.resolveModel_mem found) audited

theorem target_capable (mem : model ∈ context.target request) :
    model ∈ context.capable request := by
  unfold target at mem
  split at mem
  case isTrue => cases mem
  case isFalse =>
    obtain ⟨resolved, audited⟩ := List.mem_filter.mp mem
    exact mem_capable_of_mem (ModelRegistry.resolveModel_mem (Option.mem_toList.mp resolved)) audited

omit [Collation] in
/-- The fallbacks that are added one by one are those requested. -/
theorem foldl_addFallback (names : List String) (candidates : List ModelDef) :
    names.foldl (context.addFallback request) candidates =
      FirstOccurrences.pushAll ModelDef.id candidates
        ((names.filterMap fun name => context.registry.resolveModel name).filter
          (isCapable · (requirements request))) := by
  induction names generalizing candidates with
  | nil => rfl
  | cons name rest ih =>
    rw [List.foldl_cons, ih, addFallback]
    cases found : context.registry.resolveModel name with
    | none => simp only [List.filterMap_cons, found]
    | some model =>
      simp only [List.filterMap_cons, found]
      cases audited : isCapable model (requirements request) with
      | false => simp [audited]
      | true =>
        simp only [List.filter_cons, audited, if_true]
        rfl

/-- The lists a list of candidates is put together from. -/
def sources (context : CandidateResolutionContext) (request : ChatRouteRequest) : List ModelDef :=
  if isGenericRoutingKeyword (trim request.modelAlias) then context.capable request
  else context.target request ++ context.requested request ++ context.capable request

theorem mem_sources : model ∈ context.sources request ↔ model ∈ context.capable request := by
  unfold sources
  split
  · rfl
  · constructor
    · intro mem
      rcases List.mem_append.mp mem with named | capable
      · exact (List.mem_append.mp named).elim target_capable requested_capable
      · exact capable
    · exact List.mem_append_right _

/-- The request is not refused for the model it names. -/
def Serviceable (context : CandidateResolutionContext) (request : ChatRouteRequest) : Prop :=
  isGenericRoutingKeyword (trim request.modelAlias) = true ∨
    ∃ target, context.registry.resolveModel (trim request.modelAlias) = some target ∧
      (isCapable target (requirements request) = true ∨ context.allowMismatchEscalation = true ∧
        exceeds (requirements request).minContextLength target.contextWindow = false)

omit [Collation] in
theorem mem_missing_context (model : ModelDef) (requirements : CapabilityRequirements) :
    "context_length" ∈ (checkCapabilities model requirements).missingCapabilities ↔
      exceeds requirements.minContextLength model.contextWindow = true := by
  have named (condition : Bool) (capability reason : String) :
      "context_length" ∈ (if condition = true then [(capability, reason)] else []).map Prod.fst ↔
        condition = true ∧ "context_length" = capability := by
    cases condition <;> simp
  simp only [checkCapabilities, missing, List.map_append, List.mem_append, named]
  simp

omit [Host] [Collation] [NumberText] in
/-- A list is returned unless it is empty. -/
theorem nonempty_ok_iff {error : RoutingError} {l candidates : List ModelDef} :
    (if l.isEmpty then .error error else .ok l) = Except.ok candidates ↔
      candidates = l ∧ candidates ≠ [] := by
  cases l with
  | nil => simp
  | cons model rest =>
    simp only [List.isEmpty_cons, Bool.false_eq_true, if_false, Except.ok.injEq]
    constructor
    · rintro rfl
      exact ⟨rfl, List.cons_ne_nil _ _⟩
    · rintro ⟨rfl, -⟩
      rfl

omit [Collation] in
/-- The target, when it passes, and the fallbacks behind it are taken at their first places. -/
theorem merge_sources {targetModel : ModelDef}
    (generic : isGenericRoutingKeyword (trim request.modelAlias) = false)
    (found : context.registry.resolveModel (trim request.modelAlias) = some targetModel)
    (capable : List ModelDef) :
    FirstOccurrences.pushAll ModelDef.id
        ((context.explicitFallbacks request).foldl (context.addFallback request)
          (if isCapable targetModel (requirements request) then [targetModel] else []))
        capable =
      FirstOccurrences.firsts ModelDef.id
        (context.target request ++ context.requested request ++ capable) := by
  have first : (if isCapable targetModel (requirements request) then [targetModel] else []) =
      FirstOccurrences.firsts ModelDef.id (context.target request) := by
    rw [target, generic, found]
    cases audited : isCapable targetModel (requirements request) with
    | true =>
      simp [audited, FirstOccurrences.firsts, FirstOccurrences.pushAll, FirstOccurrences.push]
    | false => simp [audited, FirstOccurrences.firsts, FirstOccurrences.pushAll]
  rw [foldl_addFallback, first, FirstOccurrences.firsts, FirstOccurrences.firsts,
    FirstOccurrences.pushAll_append, FirstOccurrences.pushAll_append]
  rfl

/-- The candidates of a request that is not refused are its sources, each at its first place. -/
theorem resolveCandidates_ok_iff {candidates : List ModelDef} :
    context.resolveCandidates request = .ok candidates ↔
      Serviceable context request ∧
        candidates = FirstOccurrences.firsts ModelDef.id (context.sources request) ∧
        candidates ≠ [] := by
  unfold resolveCandidates Serviceable sources
  cases generic : isGenericRoutingKeyword (trim request.modelAlias) with
  | true =>
    rw [if_pos rfl, FirstOccurrences.firsts_eq_self (capable_nodup context request)]
    simp only [generic, if_true, true_or, true_and, ← apply_ite Except.error]
    exact nonempty_ok_iff
  | false =>
    simp only [generic, Bool.false_eq_true, if_false, false_or]
    cases found : context.registry.resolveModel (trim request.modelAlias) with
    | none => simp
    | some targetModel =>
      have merged := merge_sources generic found (context.capable request)
      have verdict : (checkCapabilities targetModel (requirements request)).isCapable =
          isCapable targetModel (requirements request) := rfl
      simp only [mem_missing_context, Option.some.injEq, exists_eq_left', verdict, merged]
      cases audited : isCapable targetModel (requirements request) with
      | true =>
        simp only [Bool.not_true, Bool.false_eq_true, false_and, if_false, true_or, true_and]
        exact nonempty_ok_iff
      | false =>
        cases exceeded : exceeds (requirements request).minContextLength
            targetModel.contextWindow with
        | true => simp
        | false =>
          cases allowed : context.allowMismatchEscalation with
          | true =>
            simp only [Bool.not_true, Bool.false_eq_true, and_false, if_false, and_self, or_true,
              true_and]
            exact nonempty_ok_iff
          | false => simp

end CandidateResolutionContext

end

end KeyCollective
