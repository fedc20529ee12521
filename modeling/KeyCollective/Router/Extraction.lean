import KeyCollective.Arithmetic
import KeyCollective.Router.Requirements

/-!
# Requirements of any request

`extractRequirements` takes any value. A record that is already shaped like requirements is
passed through, with the options merged; from any other record the requirements are read.
-/

namespace KeyCollective

/-! ## Untyped requests -/

def isRecord : Json → Bool
  | .object _ => true
  | _ => false

/-- The field is there, and `typeof` is `"boolean"`. -/
def hasBoolean (value : Json) (key : String) : Bool :=
  match value.get key with
  | some (.bool _) => true
  | _ => false

def isCapabilityRequirements (value : Json) : Bool :=
  isRecord value &&
    (hasBoolean value "requiresTools" || hasBoolean value "requiresVision" ||
      hasBoolean value "requiresJsonSchema" || (value.getNumber "minContextLength").isSome ||
      (value.getNumber "maxOutputTokens").isSome)

structure RequirementExtractionOptions where
  estimatedPromptTokens : Option Number := none
  contextBufferMultiplier : Option Number := none
  defaultMaxOutputTokens : Option Number := none
  provider : Option String := none
  maxCostPerMTokMicro : Option Int := none
  onlyActive : Option Bool := none

/-- The requirements a caller wrote itself, of any type, with the options merged. -/
structure GivenRequirements where
  minContextLength : Option Json
  maxOutputTokens : Option Json
  requiresTools : Option Json
  requiresVision : Option Json
  requiresJsonSchema : Option Json
  requiresStreaming : Option Json
  onlyActive : Json
  provider : Option Json
  maxCostPerMTokMicro : Option (Int ⊕ Json)

inductive ExtractedRequirements where
  | given (requirements : GivenRequirements)
  | extracted (requirements : CapabilityRequirements)

/-- `value ?? fallback`. -/
def orElse (value : Option Json) (fallback : Json) : Json :=
  match value with
  | none | some .null => fallback
  | some value => value

/-- A requirements object passed through. -/
def passThrough (cr : Json) (options : RequirementExtractionOptions) : GivenRequirements where
  minContextLength := cr.get "minContextLength"
  maxOutputTokens := cr.get "maxOutputTokens"
  requiresTools := cr.get "requiresTools"
  requiresVision := cr.get "requiresVision"
  requiresJsonSchema := cr.get "requiresJsonSchema"
  requiresStreaming := cr.get "requiresStreaming"
  onlyActive := (options.onlyActive.map Json.bool).getD (orElse (cr.get "onlyActive") (.bool true))
  provider := (options.provider.map Json.string).or (cr.get "provider")
  maxCostPerMTokMicro :=
    (options.maxCostPerMTokMicro.map Sum.inl).or ((cr.get "maxCostPerMTokMicro").map Sum.inr)

section

variable [Host]

/-- A list of tools or functions with an item, or a choice of one. -/
def requestsTools (req : Json) : Bool :=
  hasItems req "tools" || hasItems req "functions" || isChosen (req.get "tool_choice") ||
    isChosen (req.get "function_call")

/-- An image in a message, or next to the messages. -/
def requestsVision (req : Json) : Bool :=
  (match req.get "messages" with
    | some (.array messages) => messages.any hasImage
    | _ => false) || hasItems req "images"

def requestsJson (req : Json) : Bool :=
  (req.get "response_format").any asksJson || (req.get "json_schema").isSome ||
    (req.get "output_schema").isSome

def requestsStream (req : Json) : Bool :=
  match req.get "stream" with
  | some (.bool true) => true
  | _ => false

def requestedMaxTokens (req : Json) (options : RequirementExtractionOptions) : Option Number :=
  (((req.getNumber "max_tokens").filter Number.isPositive).or <|
    ((req.getNumber "max_completion_tokens").filter Number.isPositive).or <|
    options.defaultMaxOutputTokens.filter Number.isPositive).map Number.trunc

variable [NumberText]

/-- The estimate of the field, when it is an array. -/
def arrayTokens (req : Json) (key : String) : Nat :=
  match req.get key with
  | some (.array items) => estimateTokens (.array items)
  | _ => 0

def requestTokens (req : Json) (options : RequirementExtractionOptions) : Number :=
  match options.estimatedPromptTokens.filter (·.atLeast 0) with
  | some estimate => estimate.trunc
  | none =>
    .finite (arrayTokens req "messages" + ((req.get "system").map estimateTokens).getD 0 +
      arrayTokens req "tools" + arrayTokens req "functions" : Nat)

/-- Prompt and output, multiplied by the buffer. Once is the number itself. -/
def totalRequiredTokens (req : Json) (options : RequirementExtractionOptions) : Number :=
  let total := (requestTokens req options).add ((requestedMaxTokens req options).getD (.finite 0))
  Number.ceil <|
    match options.contextBufferMultiplier with
    | none => total
    | some bufferMultiplier => total.mul bufferMultiplier

/-- The requirements read from a record. -/
def readRequirements (req : Json) (options : RequirementExtractionOptions) :
    CapabilityRequirements :=
  let totalRequiredTokens := totalRequiredTokens req options
  { requiresTools := requestsTools req
    requiresVision := requestsVision req
    requiresJsonSchema := requestsJson req
    requiresStreaming := if requestsStream req then some true else none
    minContextLength := if totalRequiredTokens.isPositive then some totalRequiredTokens else none
    maxOutputTokens := requestedMaxTokens req options
    onlyActive := some (options.onlyActive.getD true)
    provider := options.provider
    maxCostPerMTokMicro := options.maxCostPerMTokMicro }

def extractRequirements (request : Option Json) (options : RequirementExtractionOptions) :
    ExtractedRequirements :=
  match request with
  | some req =>
    if !isRecord req then .extracted (noRequirements options)
    else if isCapabilityRequirements req then .given (passThrough req options)
    else .extracted (readRequirements req options)
  | none => .extracted (noRequirements options)
where
  noRequirements (options : RequirementExtractionOptions) : CapabilityRequirements :=
    { onlyActive := some (options.onlyActive.getD true)
      provider := options.provider.filter (· ≠ "")
      maxCostPerMTokMicro := options.maxCostPerMTokMicro }

/-- A message of the request has a part that is an image. -/
def HasImagePart (req : Json) : Prop :=
  ∃ messages, req.get "messages" = some (.array messages) ∧
    ∃ message ∈ messages, isRecord message = true ∧
      ∃ parts, message.get "content" = some (.array parts) ∧ ∃ part ∈ parts, isImagePart part = true

/-- The response format names JSON, or brings a schema. -/
def HasJsonFormat (req : Json) : Prop :=
  ∃ format, req.get "response_format" = some format ∧ asksJson format = true

/-! ## Completeness -/

omit [NumberText] in
theorem requestsVision_of_image {req : Json} (image : HasImagePart req) :
    requestsVision req = true := by
  obtain ⟨messages, found, message, mem, record, parts, content, part, inside, shown⟩ := image
  have shows : hasImage message = true := by
    cases message with
    | object fields =>
      have any : parts.any isImagePart = true := List.any_eq_true.mpr ⟨part, inside, shown⟩
      rw [hasImage, content]
      simp only [any, Bool.true_or]
    | _ => cases record
  have any : messages.any hasImage = true := List.any_eq_true.mpr ⟨message, mem, shows⟩
  rw [requestsVision, found]
  simp only [any, Bool.true_or]

omit [NumberText] in
theorem requestsJson_of_format {req : Json} (json : HasJsonFormat req) :
    requestsJson req = true := by
  obtain ⟨format, found, asks⟩ := json
  rw [requestsJson, found, Option.any_some, asks]
  rfl

omit [NumberText] [Host] in
theorem requestedMaxTokens_natural (req : Json) (options : RequirementExtractionOptions) :
    ((requestedMaxTokens req options).getD (.finite 0)).atLeast 0 = true := by
  unfold requestedMaxTokens
  cases given : ((req.getNumber "max_tokens").filter Number.isPositive).or <|
    ((req.getNumber "max_completion_tokens").filter Number.isPositive).or <|
    options.defaultMaxOutputTokens.filter Number.isPositive with
  | none => rfl
  | some limit =>
    apply Number.trunc_atLeast
    apply Number.atLeast_zero
    simp only [Option.or_eq_some_iff, Option.filter_eq_some_iff] at given
    rcases given with ⟨-, positive⟩ | ⟨-, ⟨-, positive⟩ | ⟨-, -, positive⟩⟩ <;> exact positive

omit [Host] in
/-- The prompt is worth its messages. -/
theorem requestTokens_atLeast {req : Json} {options : RequirementExtractionOptions}
    {messages : List Json} (found : req.get "messages" = some (.array messages))
    (estimated : options.estimatedPromptTokens.filter (·.atLeast 0) = none) :
    (requestTokens req options).atLeast (estimateItems messages : ℕ) = true := by
  have own : arrayTokens req "messages" = estimateItems messages := by
    rw [arrayTokens, found]
    exact estimateTokens.eq_5 messages
  rw [requestTokens, estimated, own]
  apply decide_eq_true
  push_cast
  linarith [Nat.cast_nonneg (α := ℚ) (((req.get "system").map estimateTokens).getD 0),
    Nat.cast_nonneg (α := ℚ) (arrayTokens req "tools"),
    Nat.cast_nonneg (α := ℚ) (arrayTokens req "functions")]

omit [Host] in
/-- The context the request needs is at least its messages, if the buffer adds to it. -/
theorem minContextLength_atLeast {req : Json} {options : RequirementExtractionOptions}
    {messages : List Json} (found : req.get "messages" = some (.array messages))
    (estimated : options.estimatedPromptTokens.filter (·.atLeast 0) = none)
    (buffer : ∀ bufferMultiplier, options.contextBufferMultiplier = some bufferMultiplier →
      bufferMultiplier.atLeast 1 = true ∧ estimateItems messages ≤ 2 ^ 53) :
    let total := totalRequiredTokens req options
    ((if total.isPositive then some total else none).getD (.finite 0)).atLeast
      (estimateItems messages : ℕ) = true := by
  intro total
  have prompt := requestTokens_atLeast found estimated
  have sum := Number.add_atLeast prompt (requestedMaxTokens_natural req options)
  rcases Nat.eq_zero_or_pos (estimateItems messages) with none | positive
  · rw [none]
    split
    case isTrue above => exact Number.atLeast_zero above
    case isFalse => rfl
  · have large : total.atLeast (estimateItems messages : ℕ) = true := by
      apply Number.ceil_atLeast
      cases multiplier : options.contextBufferMultiplier with
      | none => exact sum
      | some bufferMultiplier =>
        obtain ⟨one, bits⟩ := buffer bufferMultiplier multiplier
        exact Number.mul_atLeast bits positive sum one
    have above : total.isPositive = true :=
      Number.isPositive_of_atLeast large (by exact_mod_cast positive)
    rw [if_pos above]
    exact large

/-- Whatever a request asks for is required, unless it is itself shaped like requirements. -/
theorem extraction_complete (req : Json) (options : RequirementExtractionOptions)
    (record : isRecord req = true) (request : isCapabilityRequirements req = false) :
    ∃ requirements, extractRequirements (some req) options = .extracted requirements ∧
      (hasItems req "tools" = true ∨ hasItems req "functions" = true →
        requirements.requiresTools = true) ∧
      (HasImagePart req → requirements.requiresVision = true) ∧
      (HasJsonFormat req → requirements.requiresJsonSchema = true) ∧
      ∀ messages, req.get "messages" = some (.array messages) →
        options.estimatedPromptTokens.filter (·.atLeast 0) = none →
        (∀ bufferMultiplier, options.contextBufferMultiplier = some bufferMultiplier →
          bufferMultiplier.atLeast 1 = true ∧ estimateItems messages ≤ 2 ^ 53) →
        (requirements.minContextLength.getD (.finite 0)).atLeast (estimateItems messages : ℕ) =
          true := by
  refine ⟨readRequirements req options, ?_, ?_, requestsVision_of_image, requestsJson_of_format,
    fun messages found estimated buffer => minContextLength_atLeast found estimated buffer⟩
  · rw [extractRequirements, record, request]
    rfl
  · intro asked
    change requestsTools req = true
    rw [requestsTools]
    rcases asked with tools | functions
    · rw [tools]
      rfl
    · rw [functions, Bool.or_true]
      rfl

/-! ## Route requests -/

/-- A field, if it has a value. -/
def optionalField (key : String) (value : Option Json) : List (String × Json) :=
  (value.map fun value => (key, value)).toList

/-- A route request as the record the extraction reads. -/
def ChatRouteRequest.record (request : ChatRouteRequest) : Json :=
  .object <|
    ("messages", .array request.messages) :: ("stream", .bool request.stream) ::
    (optionalField "max_tokens" (request.max_tokens.map .number) ++
    optionalField "max_completion_tokens" (request.max_completion_tokens.map .number) ++
    optionalField "tools" (request.tools.map .array) ++
    optionalField "functions" (request.functions.map .array) ++
    optionalField "tool_choice" request.toolChoice ++
    optionalField "function_call" request.functionCall ++
    optionalField "response_format" request.responseFormat ++
    optionalField "system" request.system)

omit [Host] [NumberText] in
theorem find_optionalField (key other : String) (value : Option Json) :
    (optionalField key value).find? (fun field => field.1 = other) =
      if key = other then value.map fun value => (key, value) else none := by
  cases value with
  | none => simp [optionalField]
  | some value =>
    by_cases same : key = other
    · simp [optionalField, same]
    · simp [optionalField, same]

omit [Host] [NumberText] in
/-- What is read of the record is what the request has. -/
theorem ChatRouteRequest.get_record (request : ChatRouteRequest) :
    request.record.get "messages" = some (.array request.messages) ∧
    request.record.get "stream" = some (.bool request.stream) ∧
    request.record.get "max_tokens" = request.max_tokens.map .number ∧
    request.record.get "max_completion_tokens" = request.max_completion_tokens.map .number ∧
    request.record.get "tools" = request.tools.map .array ∧
    request.record.get "functions" = request.functions.map .array ∧
    request.record.get "tool_choice" = request.toolChoice ∧
    request.record.get "function_call" = request.functionCall ∧
    request.record.get "response_format" = request.responseFormat ∧
    request.record.get "system" = request.system := by
  simp [record, Json.get, List.find?_append, find_optionalField, Option.map_map,
    Function.comp_def]

omit [Host] [NumberText] in
/-- A record of a request has no other field. -/
theorem ChatRouteRequest.get_record_other (request : ChatRouteRequest) {key : String}
    (other : key ∉ ["messages", "stream", "max_tokens", "max_completion_tokens", "tools",
      "functions", "tool_choice", "function_call", "response_format", "system"]) :
    request.record.get key = none := by
  have apart : ∀ present ∈ ["messages", "stream", "max_tokens", "max_completion_tokens", "tools",
      "functions", "tool_choice", "function_call", "response_format", "system"], present ≠ key :=
    fun present mem same => other (same ▸ mem)
  simp only [List.forall_mem_cons] at apart
  simp [record, Json.get, List.find?_append, find_optionalField, apart]

omit [Host] [NumberText] in
theorem Json.getNumber_of_get {record : Json} {key : String} {limit : Option Number}
    (found : record.get key = limit.map .number) : record.getNumber key = limit := by
  rw [Json.getNumber, found]
  cases limit with
  | none => rfl
  | some limit => rfl

omit [Host] [NumberText] in
theorem hasItems_of_get {record : Json} {key : String} {list : Option (List Json)}
    (found : record.get key = list.map .array) :
    hasItems record key = list.any (!·.isEmpty) := by
  rw [hasItems, found]
  cases list with
  | none => rfl
  | some list => rfl

omit [Host] in
theorem arrayTokens_of_get {record : Json} {key : String} {list : Option (List Json)}
    (found : record.get key = list.map .array) :
    arrayTokens record key = (list.map estimateItems).getD 0 := by
  rw [arrayTokens, found]
  cases list with
  | none => rfl
  | some list => simp [estimateTokens]

omit [Host] in
/-- The cascade has nothing to round up: what it adds is whole. -/
theorem ChatRouteRequest.isWhole_audited (request : ChatRouteRequest)
    (estimatedPromptTokens : Option Number) :
    ((request.auditedPromptTokens estimatedPromptTokens).add
      (request.auditedMaxTokens.getD (.finite 0))).IsWhole := by
  apply Number.isWhole_add
  · unfold auditedPromptTokens
    split
    · exact Number.isWhole_trunc _
    · exact ⟨request.promptTokens, by norm_cast⟩
  · unfold auditedMaxTokens
    cases (request.max_tokens.filter Number.isPositive).or
        (request.max_completion_tokens.filter Number.isPositive) with
    | none => exact ⟨0, by norm_cast⟩
    | some limit => exact Number.isWhole_trunc limit

/-- What the cascade requires of a route request is what is extracted from its record. -/
theorem ChatRouteRequest.extract_record (request : ChatRouteRequest)
    (estimatedPromptTokens : Option Number) :
    KeyCollective.extractRequirements (some request.record) { estimatedPromptTokens } =
      .extracted (request.extractRequirements estimatedPromptTokens) := by
  obtain ⟨messages, stream, maxTokens, maxCompletion, tools, functions, toolChoice, functionCall,
    format, system⟩ := request.get_record
  have absent : isCapabilityRequirements request.record = false := by
    simp [isCapabilityRequirements, hasBoolean, Json.getNumber, request.get_record_other]
  have limits : requestedMaxTokens request.record { estimatedPromptTokens } =
      request.auditedMaxTokens := by
    rw [requestedMaxTokens, Json.getNumber_of_get maxTokens, Json.getNumber_of_get maxCompletion,
      auditedMaxTokens,
      Option.filter_none, Option.or_none]
  have prompt : requestTokens request.record { estimatedPromptTokens } =
      request.auditedPromptTokens estimatedPromptTokens := by
    rw [requestTokens, arrayTokens_of_get tools, arrayTokens_of_get functions, system, arrayTokens,
      messages]
    rfl
  have total : totalRequiredTokens request.record { estimatedPromptTokens } =
      (request.auditedPromptTokens estimatedPromptTokens).add
        (request.auditedMaxTokens.getD (.finite 0)) := by
    rw [totalRequiredTokens, prompt, limits]
    exact Number.ceil_of_isWhole (request.isWhole_audited estimatedPromptTokens)
  have vision : requestsVision request.record = request.requiresVision := by
    rw [requestsVision, messages, hasItems, request.get_record_other (by decide)]
    exact Bool.or_false _
  have json : requestsJson request.record = request.requiresJsonSchema := by
    rw [requestsJson, format, request.get_record_other (by decide),
      request.get_record_other (by decide)]
    simp [requiresJsonSchema]
  have tool : requestsTools request.record = request.requiresTools := by
    rw [requestsTools, hasItems_of_get tools, hasItems_of_get functions, toolChoice, functionCall]
    rfl
  have streams : requestsStream request.record = request.stream := by
    rw [requestsStream, stream]
    cases request.stream <;> rfl
  have read : readRequirements request.record { estimatedPromptTokens } =
      request.extractRequirements estimatedPromptTokens := by
    rw [readRequirements, extractRequirements, total, limits, vision, json, tool, streams]
    rfl
  rw [KeyCollective.extractRequirements, absent, read]
  rfl

end

/-! ## A request that is taken for requirements -/

section Example

attribute [local instance] asciiHost integerText

def weatherTool : Json := .object [("type", .string "function")]

def greeting : Json := .object [("role", .string "user"), ("content", .string "hello")]

/-- A request with a tool. A field of the camel-cased name makes it a requirements object. -/
def toolRequest (camelCased : List (String × Json)) : Json :=
  .object (("messages", .array [greeting]) :: ("tools", .array [weatherTool]) :: camelCased)

/-- An image, a tool and a JSON format, with half of the context more as a buffer. -/
def pictureRequest : Json :=
  .object [("messages", .array [.object [("role", .string "user"),
      ("content", .array [.object [("type", .string "image_url")]])]]),
    ("functions", .array [weatherTool]),
    ("response_format", .object [("type", .string "json_object")])]

def buffered (bufferMultiplier : ℚ) : RequirementExtractionOptions :=
  { contextBufferMultiplier := some (.finite bufferMultiplier) }

theorem extraction_complete_picture :
    ∃ requirements,
      extractRequirements (some pictureRequest) (buffered (3 / 2)) = .extracted requirements ∧
      requirements.requiresTools = true ∧ requirements.requiresVision = true ∧
      requirements.requiresJsonSchema = true ∧
      (requirements.minContextLength.getD (.finite 0)).atLeast 813 = true := by
  obtain ⟨requirements, extracted, tools, vision, json, context⟩ :=
    extraction_complete pictureRequest (buffered (3 / 2)) rfl rfl
  refine ⟨requirements, extracted, tools (Or.inr rfl), ?_, ?_, ?_⟩
  · exact vision ⟨_, rfl, _, List.mem_cons_self, rfl, _, rfl, _, List.mem_cons_self, by decide⟩
  · exact json ⟨_, rfl, by decide⟩
  · refine context _ rfl rfl ?_
    rintro bufferMultiplier ⟨⟩
    exact ⟨by decide +kernel, by decide +kernel⟩

/-- A limit under its camel-cased name, and the tools are not required; half a buffer, and the
context is less than the messages. -/
theorem extraction_diverted :
    (hasItems (toolRequest [("maxOutputTokens", .number (.finite 100))]) "tools" = true ∧
      ∃ requirements, extractRequirements
        (some (toolRequest [("maxOutputTokens", .number (.finite 100))])) {} =
          .given requirements ∧
      requirements.requiresTools = none ∧ requirements.minContextLength = none) ∧
    (∃ requirements, extractRequirements (some (toolRequest [])) (buffered (1 / 8)) =
          .extracted requirements ∧
      (requirements.minContextLength.getD (.finite 0)).atLeast (estimateItems [greeting] : ℕ) =
        false) := by
  refine ⟨⟨rfl, _, rfl, rfl, rfl⟩, _, rfl, ?_⟩
  decide +kernel

end Example

end KeyCollective
