import KeyCollective.Router.Candidates
import KeyCollective.Router.Extraction

/-!
# Token limits

The registry checks prompt and output against a model's limits, and the capability filter checks
a context length in which both are added already. They accept the same models.
-/

namespace KeyCollective

namespace ModelRegistry

inductive TokenLimitError where
  | unknownModelAlias (modelAlias : String) (configuredAliases : List String)
  | modelNotFound (modelId : String) (availableModels : List String)
  | contextWindowExceeded (modelId : String) (contextWindow : Int) (requestedTokens : Number)
deriving DecidableEq

structure ContextValidationResult where
  valid : Bool
  contextWindow : Int
  maxOutputTokens : Int
  promptTokens : Number
  maxCompletionTokens : Number
  totalEstimatedTokens : Number
  remainingTokens : Number
  errorReason : Option String
deriving DecidableEq

section

variable [Host] (registry : ModelRegistry)

def resolveModelOrThrow (idOrAlias : String) (onlyActive : Bool := true) :
    Except TokenLimitError ModelDef :=
  match registry.resolveModel idOrAlias onlyActive with
  | some resolved => .ok resolved
  | none =>
    let knownAliases := (registry.getAliasMap onlyActive).keys
    if includes idOrAlias "-" ∨ Host.toLowerCase idOrAlias ∈ knownAliases then
      .error (.unknownModelAlias idOrAlias knownAliases)
    else .error (.modelNotFound idOrAlias registry.models.keys)

/-- `Math.max(0, Math.trunc(tokens))`. -/
def wholeTokens (tokens : Number) : Number := tokens.trunc.max0

def fitsContextWindow (modelIdOrAlias : String) (promptTokens : Number)
    (maxOutputTokens : Number := .finite 0) : Bool :=
  match registry.resolveModel modelIdOrAlias with
  | none => false
  | some model =>
    ((wholeTokens promptTokens).add (wholeTokens maxOutputTokens)).atMost model.contextWindow

/-- What is wrong with the tokens, if anything. -/
def limitError [NumberText] (model : ModelDef) (promptTokens : Number)
    (requestedMaxOutput : Option Number) (totalEstimatedTokens : Number) : Option String :=
  if promptTokens.above model.contextWindow then
    some ("Prompt tokens (" ++ promptTokens.text ++ ") exceed model '" ++ model.id ++
      "' context window (" ++ toString model.contextWindow ++ ")")
  else if requestedMaxOutput.any (·.above model.maxOutputTokens) then
    some ("Requested max output tokens (" ++ (requestedMaxOutput.getD .nan).text ++
      ") exceed model '" ++ model.id ++ "' maximum output limit (" ++
      toString model.maxOutputTokens ++ ")")
  else if totalEstimatedTokens.above model.contextWindow then
    some ("Total estimated tokens (" ++ totalEstimatedTokens.text ++ ") exceed model '" ++
      model.id ++ "' context window (" ++ toString model.contextWindow ++ ")")
  else none

def validateTokenLimits [NumberText] (modelIdOrAlias : String) (promptTokens : Number)
    (maxOutputTokens : Option Number) : Except TokenLimitError ContextValidationResult := do
  let model ← registry.resolveModelOrThrow modelIdOrAlias
  let promptTokens := wholeTokens promptTokens
  let requestedMaxOutput := maxOutputTokens.map wholeTokens
  let totalEstimatedTokens := promptTokens.add (requestedMaxOutput.getD (.finite 0))
  let errorReason := limitError model promptTokens requestedMaxOutput totalEstimatedTokens
  return {
    valid := errorReason.isNone
    contextWindow := model.contextWindow
    maxOutputTokens := model.maxOutputTokens
    promptTokens
    maxCompletionTokens := requestedMaxOutput.getD (.finite model.maxOutputTokens)
    totalEstimatedTokens
    remainingTokens := ((Number.finite model.contextWindow).add promptTokens.neg).max0
    errorReason }

def assertWithinContextWindow (modelIdOrAlias : String) (promptTokens : Number)
    (maxOutputTokens : Number := .finite 0) : Except TokenLimitError Unit := do
  let model ← registry.resolveModelOrThrow modelIdOrAlias
  let total := (wholeTokens promptTokens).add (wholeTokens maxOutputTokens)
  if total.above model.contextWindow then
    throw (.contextWindowExceeded model.id model.contextWindow total)

variable {registry} {model : ModelDef}

/-- The id of an active model of the registry names that model. -/
theorem resolveModel_id (mem : model ∈ registry.getAllModels true) :
    registry.resolveModel model.id = some model := by
  obtain ⟨stored, active⟩ := List.mem_filter.mp mem
  have found : registry.models.get? (cleanName model.id) = some model :=
    IndexedMap.get?_of_mem stored
  rw [resolveModel, found]
  simp [active]

theorem resolveModelOrThrow_id (mem : model ∈ registry.getAllModels true) :
    registry.resolveModelOrThrow model.id = .ok model := by
  rw [resolveModelOrThrow, resolveModel_id mem]

/-! ## What the checks accept -/

/-- A count of tokens: an integer that is not negative, or infinity. -/
structure IsCount (tokens : Number) : Prop where
  whole : tokens.IsWhole
  natural : tokens.atLeast 0 = true

omit [Host] in
theorem IsCount.wholeTokens_eq {tokens : Number} (count : IsCount tokens) :
    wholeTokens tokens = tokens := by
  rw [wholeTokens, Number.trunc_of_isWhole count.whole, Number.max0_of_atLeast count.natural]

/-- Prompt and output are within the model's limits. -/
structure WithinLimits (model : ModelDef) (promptTokens : Number)
    (maxOutputTokens : Option Number) : Prop where
  total : (promptTokens.add (maxOutputTokens.getD (.finite 0))).above model.contextWindow = false
  output : maxOutputTokens.any (·.above model.maxOutputTokens) = false

variable {promptTokens : Number} {maxOutputTokens : Option Number} (prompt : IsCount promptTokens)
  (output : ∀ tokens, maxOutputTokens = some tokens → IsCount tokens)

include output in
omit [Host] in
theorem output_count : IsCount (maxOutputTokens.getD (.finite 0)) := by
  cases found : maxOutputTokens with
  | none => exact ⟨⟨0, by norm_cast⟩, rfl⟩
  | some tokens => exact output tokens found

include prompt output

omit [Host] in
theorem total_natural :
    (promptTokens.add (maxOutputTokens.getD (.finite 0))).atLeast 0 = true :=
  Number.add_atLeast prompt.natural (output_count output).natural

omit [Host] prompt in
/-- No error is found exactly within the limits. -/
theorem limitError_isNone_iff [NumberText] :
    (limitError model promptTokens maxOutputTokens
      (promptTokens.add (maxOutputTokens.getD (.finite 0)))).isNone = true ↔
      WithinLimits model promptTokens maxOutputTokens := by
  unfold limitError
  constructor
  · intro valid
    split at valid
    case isTrue => cases valid
    case isFalse =>
      split at valid
      case isTrue => cases valid
      case isFalse few =>
        split at valid
        case isTrue => cases valid
        case isFalse fits =>
          exact ⟨Bool.eq_false_of_not_eq_true fits, Bool.eq_false_of_not_eq_true few⟩
  · intro within
    have alone : promptTokens.above model.contextWindow = false := by
      by_contra above
      have sum := Number.above_add (output_count output).natural
        (Bool.eq_true_of_not_eq_false above)
      rw [within.total] at sum
      cases sum
    rw [alone, within.total, within.output]
    rfl

/-- A model is valid exactly within its limits. -/
theorem validateTokenLimits_iff [NumberText] (mem : model ∈ registry.getAllModels true) :
    (∃ result, registry.validateTokenLimits model.id promptTokens maxOutputTokens = .ok result ∧
      result.valid = true) ↔ WithinLimits model promptTokens maxOutputTokens := by
  have counts : maxOutputTokens.map wholeTokens = maxOutputTokens := by
    cases found : maxOutputTokens with
    | none => rfl
    | some tokens => exact congrArg some (output tokens found).wholeTokens_eq
  rw [← limitError_isNone_iff output, validateTokenLimits, resolveModelOrThrow_id mem,
    prompt.wholeTokens_eq, counts]
  constructor
  · rintro ⟨result, ⟨⟩, valid⟩
    exact valid
  · intro valid
    exact ⟨_, rfl, valid⟩

theorem fitsContextWindow_of_within (mem : model ∈ registry.getAllModels true)
    (within : WithinLimits model promptTokens maxOutputTokens) :
    registry.fitsContextWindow model.id promptTokens (maxOutputTokens.getD (.finite 0)) = true := by
  rw [fitsContextWindow, resolveModel_id mem]
  simp only [prompt.wholeTokens_eq, (output_count output).wholeTokens_eq]
  rw [Number.atMost_eq_not_above (total_natural prompt output), within.total]
  rfl

theorem assertWithinContextWindow_of_within (mem : model ∈ registry.getAllModels true)
    (within : WithinLimits model promptTokens maxOutputTokens) :
    registry.assertWithinContextWindow model.id promptTokens
      (maxOutputTokens.getD (.finite 0)) = .ok () := by
  rw [assertWithinContextWindow, resolveModelOrThrow_id mem]
  simp only [prompt.wholeTokens_eq, (output_count output).wholeTokens_eq]
  change (if _ then _ else _) = _
  rw [within.total]
  rfl

end

end ModelRegistry

/-! ## What routing accepts -/

open ModelRegistry

section

variable [Host] [NumberText]

/-- The limits of a request are integers. -/
structure WholeLimits (req : Json) (options : RequirementExtractionOptions) : Prop where
  max_tokens : ∀ limit, req.getNumber "max_tokens" = some limit → limit.IsWhole
  max_completion_tokens : ∀ limit, req.getNumber "max_completion_tokens" = some limit →
    limit.IsWhole
  fallback : ∀ limit, options.defaultMaxOutputTokens = some limit → limit.IsWhole

/-- Options that keep the buffer, name no provider or cost, and ask for active models. -/
structure Unrestricted (options : RequirementExtractionOptions) : Prop where
  buffer : options.contextBufferMultiplier = none
  provider : options.provider = none
  cost : options.maxCostPerMTokMicro = none
  active : options.onlyActive.getD true = true

variable {req : Json} {options : RequirementExtractionOptions}

omit [Host] in
theorem requestTokens_count : IsCount (requestTokens req options) := by
  unfold requestTokens
  split
  case h_1 estimate given =>
    exact ⟨Number.isWhole_trunc _, Number.trunc_atLeast (Option.filter_eq_some_iff.mp given).2⟩
  case h_2 => exact ⟨⟨_, (Int.cast_natCast _).symm⟩, decide_eq_true (Nat.cast_nonneg _)⟩

omit [Host] [NumberText] in
/-- A limit of a request is a positive integer. -/
theorem requestedMaxTokens_count (whole : WholeLimits req options) {limit : Number}
    (found : requestedMaxTokens req options = some limit) :
    IsCount limit ∧ limit.isPositive = true := by
  obtain ⟨asked, given, rfl⟩ := Option.map_eq_some_iff.mp found
  simp only [Option.or_eq_some_iff, Option.filter_eq_some_iff] at given
  have integer : asked.IsWhole ∧ asked.isPositive = true := by
    rcases given with ⟨given, positive⟩ | ⟨-, ⟨given, positive⟩ | ⟨-, given, positive⟩⟩
    · exact ⟨whole.max_tokens asked given, positive⟩
    · exact ⟨whole.max_completion_tokens asked given, positive⟩
    · exact ⟨whole.fallback asked given, positive⟩
  rw [Number.trunc_of_isWhole integer.1]
  exact ⟨⟨integer.1, Number.atLeast_zero integer.2⟩, integer.2⟩

omit [Host] in
/-- Without a buffer, what is required is prompt and output. -/
theorem totalRequiredTokens_eq (free : Unrestricted options) (whole : WholeLimits req options) :
    totalRequiredTokens req options =
      (requestTokens req options).add ((requestedMaxTokens req options).getD (.finite 0)) := by
  have output := output_count fun tokens found => (requestedMaxTokens_count whole found).1
  rw [totalRequiredTokens, free.buffer]
  exact Number.ceil_of_isWhole (Number.isWhole_add requestTokens_count.whole output.whole)

/-- A model has what the request requires. -/
structure HasCapabilities (model : ModelDef) (requirements : CapabilityRequirements) : Prop where
  tools : requirements.requiresTools = true → model.supportsTools = true
  vision : requirements.requiresVision = true → model.supportsVision = true
  jsonSchema : requirements.requiresJsonSchema = true → model.supportsJsonSchema = true

/-- A model the audit lets pass is within its limits. A context window below zero is only found
out by a token. -/
theorem within_of_isCapable (free : Unrestricted options) (whole : WholeLimits req options)
    {model : ModelDef}
    (sized : 0 ≤ model.contextWindow ∨ (totalRequiredTokens req options).isPositive = true)
    (capable : isCapable model (readRequirements req options) = true) :
    WithinLimits model (requestTokens req options) (requestedMaxTokens req options) := by
  obtain ⟨-, -, -, -, context, output, -⟩ := (isCapable_iff _ _).mp capable
  constructor
  · rw [← totalRequiredTokens_eq free whole]
    by_contra above
    have high := Bool.eq_true_of_not_eq_false above
    have positive : (totalRequiredTokens req options).isPositive = true := by
      rcases sized with natural | positive
      · exact Number.isPositive_of_above high (by exact_mod_cast natural)
      · exact positive
    change exceeds (if _ then _ else _) _ = false at context
    rw [if_pos positive, exceeds, positive, high] at context
    cases context
  · change exceeds (requestedMaxTokens req options) _ = false at output
    cases found : requestedMaxTokens req options with
    | none => rfl
    | some limit =>
      rw [found, exceeds, (requestedMaxTokens_count whole found).2] at output
      exact output

/-- A model within its limits passes the audit, if it is active and has what is required. -/
theorem isCapable_of_within (free : Unrestricted options) (whole : WholeLimits req options)
    {model : ModelDef} (active : model.isActive = true)
    (capabilities : HasCapabilities model (readRequirements req options))
    (within : WithinLimits model (requestTokens req options) (requestedMaxTokens req options)) :
    isCapable model (readRequirements req options) = true := by
  refine (isCapable_iff _ _).mpr ⟨fun _ => active, capabilities.tools, capabilities.vision,
    capabilities.jsonSchema, ?_, ?_, ?_, ?_⟩
  · change exceeds (if _ then _ else _) _ = false
    rw [totalRequiredTokens_eq free whole]
    split
    · rw [exceeds, within.total, Bool.and_false]
    · rfl
  · change exceeds (requestedMaxTokens req options) _ = false
    have output := within.output
    cases found : requestedMaxTokens req options with
    | none => rfl
    | some limit =>
      rw [found, Option.any_some] at output
      rw [exceeds, output, Bool.and_false]
  · change otherProvider options.provider model = false
    rw [free.provider]
    rfl
  · change costsMore options.maxCostPerMTokMicro model = false
    rw [free.cost]
    rfl

/-- Routing returns the models whose limits hold the request. -/
theorem token_limits_agree [Collation] (registry : ModelRegistry) (record : isRecord req = true)
    (request : isCapabilityRequirements req = false) (free : Unrestricted options)
    (whole : WholeLimits req options) (sortBy : ModelSortStrategy) :
    ∃ requirements, extractRequirements (some req) options = .extracted requirements ∧
      (∀ model ∈ filterRegistry registry requirements sortBy,
        0 ≤ model.contextWindow ∨ (totalRequiredTokens req options).isPositive = true →
        (∃ result, registry.validateTokenLimits model.id (requestTokens req options)
          (requestedMaxTokens req options) = .ok result ∧ result.valid = true) ∧
        registry.fitsContextWindow model.id (requestTokens req options)
          ((requestedMaxTokens req options).getD (.finite 0)) = true ∧
        registry.assertWithinContextWindow model.id (requestTokens req options)
          ((requestedMaxTokens req options).getD (.finite 0)) = .ok ()) ∧
      ∀ model ∈ registry.getAllModels true, HasCapabilities model requirements →
        (∃ result, registry.validateTokenLimits model.id (requestTokens req options)
          (requestedMaxTokens req options) = .ok result ∧ result.valid = true) →
        model ∈ filterRegistry registry requirements sortBy := by
  have prompt : IsCount (requestTokens req options) := requestTokens_count
  have output : ∀ tokens, requestedMaxTokens req options = some tokens → IsCount tokens :=
    fun _ found => (requestedMaxTokens_count whole found).1
  have listed : ∀ {model : ModelDef},
      model ∈ filterRegistry registry (readRequirements req options) sortBy ↔
        model ∈ registry.getAllModels true ∧
          isCapable model (readRequirements req options) = true := by
    intro model
    rw [filterRegistry, mem_sortCandidates, List.mem_filter]
    change model ∈ registry.getAllModels (options.onlyActive.getD true) ∧ _ ↔ _
    rw [free.active]
  refine ⟨readRequirements req options, ?_, ?_, ?_⟩
  · rw [extractRequirements, record, request]
    rfl
  · intro model routed sized
    obtain ⟨mem, capable⟩ := listed.mp routed
    have within := within_of_isCapable free whole sized capable
    exact ⟨(validateTokenLimits_iff prompt output mem).mpr within,
      fitsContextWindow_of_within prompt output mem within,
      assertWithinContextWindow_of_within prompt output mem within⟩
  · intro model mem capabilities valid
    have within := (validateTokenLimits_iff prompt output mem).mp valid
    exact listed.mpr ⟨mem,
      isCapable_of_within free whole (List.mem_filter.mp mem).2 capabilities within⟩

end

/-! ## Requests of few tokens -/

section Example

attribute [local instance] asciiHost codePointCollation integerText

def windowModel (contextWindow : Int) : ModelDef where
  id := "windowed"
  provider := "groq"
  inputCostPerMTokMicro := 1
  outputCostPerMTokMicro := 1
  contextWindow
  maxOutputTokens := 32

def windowRegistry (contextWindow : Int) : ModelRegistry :=
  .run [.registerModel (windowModel contextWindow)]

/-- A chat of the messages with a limit. -/
def limitedRequest (messages : List Json) : Json :=
  .object [("messages", .array messages), ("max_tokens", .number (.finite 16))]

/-- Eleven tokens of prompt and sixteen of output. -/
theorem token_limits_agree_greeting :
    ∃ requirements, extractRequirements (some (limitedRequest [greeting])) {} =
        .extracted requirements ∧
      ∀ model ∈ filterRegistry (windowRegistry 27) requirements .costAsc,
        (windowRegistry 27).fitsContextWindow model.id (.finite 11) (.finite 16) = true := by
  have whole : WholeLimits (limitedRequest [greeting]) {} :=
    { max_tokens := by
        rintro limit ⟨⟩
        exact ⟨16, by norm_num⟩
      max_completion_tokens := by
        intro limit found
        cases found
      fallback := by
        intro limit found
        cases found }
  obtain ⟨requirements, extracted, routed, -⟩ :=
    token_limits_agree (windowRegistry 27) rfl rfl ⟨rfl, rfl, rfl, rfl⟩ whole .costAsc
  refine ⟨requirements, extracted, ?_⟩
  intro model mem
  have fits := (routed model mem (Or.inr (by decide +kernel))).2.1
  have prompt : requestTokens (limitedRequest [greeting]) {} = .finite 11 := by decide
  have output : requestedMaxTokens (limitedRequest [greeting]) {} = some (.finite 16) := by
    decide
  rw [prompt, output, Option.getD_some] at fits
  exact fits

/-- Without a token a context window below zero is routed to, and is not valid. -/
theorem negative_window_routed :
    ∃ requirements, extractRequirements (some (.object [("messages", .array [])])) {} =
        .extracted requirements ∧
      windowModel (-1) ∈ filterRegistry (windowRegistry (-1)) requirements .costAsc ∧
      ((windowRegistry (-1)).validateTokenLimits "windowed" (.finite 0) none).toOption.map
        ContextValidationResult.valid = some false := by
  refine ⟨readRequirements (.object [("messages", .array [])]) {}, rfl, ?_, ?_⟩
  · decide +kernel
  · decide

end Example

end KeyCollective
