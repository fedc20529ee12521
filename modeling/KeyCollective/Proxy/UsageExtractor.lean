import KeyCollective.Json
import KeyCollective.Proxy.Upstream

/-!
# The usage in a payload

`extractUsageFromPayload` looks for token counts where each provider puts them. A later place
overrides an earlier one, and counts at the root are read when nothing else was found.
-/

namespace KeyCollective.Sse

/-- `Partial<StreamUsage>`. -/
structure PartialUsage where
  promptTokens : Option Number := none
  completionTokens : Option Number := none
  totalTokens : Option Number := none
  cachedTokens : Option Number := none
  reasoningTokens : Option Number := none
deriving DecidableEq

namespace PartialUsage

/-- The fields of `later` over those of `result`. -/
def assign (result later : PartialUsage) : PartialUsage where
  promptTokens := later.promptTokens.or result.promptTokens
  completionTokens := later.completionTokens.or result.completionTokens
  totalTokens := later.totalTokens.or result.totalTokens
  cachedTokens := later.cachedTokens.or result.cachedTokens
  reasoningTokens := later.reasoningTokens.or result.reasoningTokens

/-- Cached and reasoning tokens alone are no usage. -/
def found (result : PartialUsage) : Bool :=
  result.promptTokens.isSome || result.completionTokens.isSome || result.totalTokens.isSome

end PartialUsage

variable (payload : Json)

/-- `usage`, or Groq's `x_groq.usage`. -/
def usageObject : Option Json :=
  (payload.getObject "usage").or ((payload.getObject "x_groq").bind (·.getObject "usage"))

/-- A detail of the usage: in the details object when there is one, else in the usage. -/
def detail (usage : Json) (details key : String) : Option Number :=
  match usage.getObject details with
  | some object => object.getNumber key
  | none => usage.getNumber key

def standardUsage (usage : Json) : PartialUsage where
  promptTokens := usage.firstNumber ["prompt_tokens", "promptTokens", "input_tokens"]
  completionTokens := usage.firstNumber ["completion_tokens", "completionTokens", "output_tokens"]
  totalTokens := usage.firstNumber ["total_tokens", "totalTokens"]
  cachedTokens := detail usage "prompt_tokens_details" "cached_tokens"
  reasoningTokens := detail usage "completion_tokens_details" "reasoning_tokens"

def geminiUsage (metadata : Json) : PartialUsage where
  promptTokens := metadata.firstNumber ["promptTokenCount", "prompt_token_count"]
  completionTokens := metadata.firstNumber ["candidatesTokenCount", "candidates_token_count"]
  totalTokens := metadata.firstNumber ["totalTokenCount", "total_token_count"]
  cachedTokens := metadata.firstNumber ["cachedContentTokenCount", "cached_content_token_count"]
  reasoningTokens := metadata.firstNumber ["thoughtsTokenCount", "thoughts_token_count"]

def anthropicUsage (usage : Json) : PartialUsage where
  promptTokens := usage.getNumber "input_tokens"
  completionTokens := usage.getNumber "output_tokens"
  cachedTokens := usage.getNumber "cache_read_input_tokens"

def cohereUsage (tokens : Json) : PartialUsage where
  promptTokens := tokens.getNumber "input_tokens"
  completionTokens := tokens.getNumber "output_tokens"

def bedrockUsage (metrics : Json) : PartialUsage where
  promptTokens := metrics.getNumber "inputTokenCount"
  completionTokens := metrics.getNumber "outputTokenCount"

def rootUsage : PartialUsage where
  promptTokens := payload.getNumber "prompt_tokens"
  completionTokens := payload.getNumber "completion_tokens"
  totalTokens := payload.getNumber "total_tokens"

/-- Cohere's `meta.tokens`, or its `meta.billed_units`. -/
def cohereObject : Option Json :=
  (payload.getObject "meta").bind fun metadata =>
    (metadata.getObject "tokens").or (metadata.getObject "billed_units")

/-- The usage of Anthropic's `message_start`. -/
def messageObject : Option Json := (payload.getObject "message").bind (·.getObject "usage")

def bedrockObject : Option Json := payload.getObject "amazon-bedrock-invocationMetrics"

/-- What is read of a place, which may be absent. -/
def readPlace (place : Option Json) (usage : Json → PartialUsage) : PartialUsage :=
  (place.map usage).getD {}

/-- The usage in the places of the providers, the last one found on top. -/
def providerUsage : PartialUsage :=
  ((((readPlace (usageObject payload) standardUsage).assign
    (readPlace (payload.getObject "usageMetadata") geminiUsage)).assign
    (readPlace (messageObject payload) anthropicUsage)).assign
    (readPlace (cohereObject payload) cohereUsage)).assign
    (readPlace (bedrockObject payload) bedrockUsage)

def extractUsageFromPayload : Option PartialUsage :=
  if ¬payload.isObject then none
  else
    let result := providerUsage payload
    if result.found then some result
    else
      let result := result.assign (rootUsage payload)
      if result.found then some result else none

end KeyCollective.Sse
