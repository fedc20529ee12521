import KeyCollective.Coordinator.Brake
import KeyCollective.Router.Escalation

/-!
# The body of a chat request

The endpoint turns a body into a route request: it reads the token limit under three names and
estimates the tokens of the messages, unless the body says how many there are. Each attempt sends
a body of its own to the provider.
-/

namespace KeyCollective

section

variable [NumberText]

namespace ChatHandler

/-- `value ?? ..`. -/
def nonNull : Option Json → Option Json
  | some .null => none
  | value => value

/-- The field, when `Array.isArray` holds of it. -/
def getArray (body : Json) (key : String) : Option (List Json) :=
  match body.get key with
  | some (.array items) => some items
  | _ => none

/-- The model asked for, or `auto`. -/
def modelAliasOf (body : Json) : String :=
  match (nonNull (body.get "model")).or (body.get "modelAlias") with
  | some (.string name) => if isBlank name then "auto" else trim name
  | _ => "auto"

/-- The body's own estimate, or that of its messages alone. -/
def estimateOf (body : Json) (messages : List Json) : Option Number :=
  (body.getNumber "estimatedPromptTokens").or <|
    if messages.isEmpty then none else some (.finite (estimateItems messages))

/-- The route request of a body. -/
def routeRequestOf (body : Json) : Except RouterError ChatRouteRequest :=
  let routed (messages : List Json) : ChatRouteRequest :=
    { stream := Json.isTruthy (body.get "stream")
      modelAlias := modelAliasOf body
      messages
      maxTokens := body.firstNumber ["max_tokens", "maxTokens", "max_completion_tokens"]
      tools := getArray body "tools"
      functions := getArray body "functions"
      toolChoice := body.get "tool_choice"
      functionCall := body.get "function_call"
      responseFormat := body.get "response_format"
      estimatedPromptTokens := estimateOf body messages }
  match body.get "messages" with
  | none => .ok (routed [])
  | some (.array messages) => .ok (routed messages)
  | some _ => .error ⟨"'messages' parameter must be an array", 400, "INVALID_MESSAGES_PARAMETER"⟩

/-- What the endpoint leaves open in a route request: it brings no key and sets no bound on the
fallbacks, and its limit goes by a name the audit does not read. -/
structure Endpoint (body : Json) (request : ChatRouteRequest) : Prop where
  keyless : request.apiKey = none
  unbounded : request.maxFallbacks = none
  unaudited : request.auditedMaxTokens = none
  estimated : request.estimatedPromptTokens = estimateOf body request.messages

theorem routeRequestOf_endpoint {body : Json} {request : ChatRouteRequest}
    (routed : routeRequestOf body = .ok request) : Endpoint body request := by
  unfold routeRequestOf at routed
  split at routed
  · cases routed
    constructor <;> rfl
  · cases routed
    constructor <;> rfl
  · cases routed

end ChatHandler

end

/-! ## What an attempt sends -/

section

variable [Host]

/-- What a provider is sent of a request. -/
structure DispatchedBody where
  messages : List Json
  maxTokens : Option Number
  tools : Option (List Json)
  functions : Option (List Json)
  toolChoice : Option Json
  functionCall : Option Json
  responseFormat : Option Json

namespace ChatRouteRequest

variable (request : ChatRouteRequest) (defaultMaxTokens : Option Number)

/-- The limit of an attempt, of the request or else of the router. -/
def attemptMaxTokens : Option Number :=
  request.maxTokens.or <| request.max_tokens.or <| request.max_completion_tokens.or defaultMaxTokens

/-- The body sent to the provider of a model. Values the host takes for false are left out, and
Anthropic is always sent a limit. -/
def dispatched (model : ModelDef) : DispatchedBody :=
  let truthy (value : Option Json) : Option Json := if Json.isTruthy value then value else none
  { messages := request.messages
    maxTokens :=
      if Host.toLowerCase model.provider = "anthropic" then
        some ((request.attemptMaxTokens defaultMaxTokens).getD (.finite 4096))
      else request.attemptMaxTokens defaultMaxTokens
    tools := request.tools
    functions := request.functions
    toolChoice := truthy request.toolChoice
    functionCall := truthy request.functionCall
    responseFormat := truthy request.responseFormat }

end ChatRouteRequest

namespace DispatchedBody

variable (body : DispatchedBody)

def needsTools : Bool :=
  body.tools.any (!·.isEmpty) || body.functions.any (!·.isEmpty) || isChosen body.toolChoice ||
    isChosen body.functionCall

def needsVision : Bool := body.messages.any hasImage

def needsJson : Bool := body.responseFormat.any asksJson

variable [NumberText]

/-- The estimate of all that is sent. -/
def promptTokens : Nat :=
  estimateItems body.messages + (body.tools.map estimateItems).getD 0 +
    (body.functions.map estimateItems).getD 0

end DispatchedBody

variable [NumberText]

/-- The model has room for what it is sent and may give out. -/
structure HasRoom (model : ModelDef) (body : DispatchedBody) : Prop where
  output : ∀ limit ∈ body.maxTokens, limit.atMost model.maxOutputTokens = true
  context : ((Number.finite body.promptTokens).add (body.maxTokens.getD (.finite 0))).atMost
    model.contextWindow = true

/-- The model has room for what it is sent, and every capability that needs. -/
structure Suits (model : ModelDef) (body : DispatchedBody) : Prop where
  room : HasRoom model body
  tools : body.needsTools = true → model.supportsTools = true
  vision : body.needsVision = true → model.supportsVision = true
  json : body.needsJson = true → model.supportsJsonSchema = true

instance (model : ModelDef) (body : DispatchedBody) : Decidable (HasRoom model body) :=
  decidable_of_iff ((∀ limit ∈ body.maxTokens, limit.atMost model.maxOutputTokens = true) ∧
      ((Number.finite body.promptTokens).add (body.maxTokens.getD (.finite 0))).atMost
        model.contextWindow = true)
    ⟨fun ⟨output, context⟩ => ⟨output, context⟩, fun ⟨output, context⟩ => ⟨output, context⟩⟩

variable {request : ChatRouteRequest} {defaultMaxTokens : Option Number} {model : ModelDef}

omit [Host] [NumberText] in
theorem isChosen_truthy {choice : Option Json}
    (chosen : isChosen (if Json.isTruthy choice then choice else none) = true) :
    isChosen choice = true := by
  split at chosen
  · exact chosen
  · cases chosen

/-- The audit asks for every capability that what is sent needs. -/
theorem suits_of_capable
    (audited : isCapable model (CandidateResolutionContext.requirements request) = true)
    (room : HasRoom model (request.dispatched defaultMaxTokens model)) :
    Suits model (request.dispatched defaultMaxTokens model) := by
  obtain ⟨-, tools, vision, json, -⟩ := (isCapable_iff model _).mp audited
  refine ⟨room, fun needs => tools ?_, vision, fun needs => json ?_⟩
  · unfold DispatchedBody.needsTools ChatRouteRequest.dispatched at needs
    simp only [Bool.or_eq_true] at needs
    change ChatRouteRequest.requiresTools request = true
    simp only [ChatRouteRequest.requiresTools, Bool.or_eq_true]
    rcases needs with ((some | some) | chosen) | chosen
    · exact Or.inl (Or.inl (Or.inl some))
    · exact Or.inl (Or.inl (Or.inr some))
    · exact Or.inl (Or.inr (isChosen_truthy chosen))
    · exact Or.inr (isChosen_truthy chosen)
  · unfold DispatchedBody.needsJson ChatRouteRequest.dispatched at needs
    change request.responseFormat.any asksJson = true
    simp only at needs
    split at needs
    · exact needs
    · cases needs

end

end KeyCollective
