import KeyCollective.Json
import KeyCollective.Router.Capability
import KeyCollective.Router.Cascade

/-!
# Requirements of a request

What a request needs of a model: tools, vision, a JSON schema, room for its tokens. Tokens are
estimated from the text of what is sent, unless the request brings an estimate of its own.
-/

namespace KeyCollective

/-- A route request, with what the audit and the dispatch read of it. -/
structure ChatRouteRequest extends CascadeRouteRequest where
  modelAlias : String
  messages : List Json
  maxTokens : Option Number := none
  max_tokens : Option Number := none
  max_completion_tokens : Option Number := none
  tools : Option (List Json) := none
  functions : Option (List Json) := none
  toolChoice : Option Json := none
  functionCall : Option Json := none
  responseFormat : Option Json := none
  system : Option Json := none
  estimatedPromptTokens : Option Number := none
  fallbackModels : Option (List String) := none

/-! ## Tokens -/

section

variable [NumberText]

/-- `Math.max(1, Math.ceil(length / 4))`. -/
def tokensOfLength (length : Nat) : Nat := max 1 ((length + 3) / 4)

/-- A text is worth a token for every four code units, the empty one none. -/
def textTokens (s : String) : Nat := if utf16Length s = 0 then 0 else tokensOfLength (utf16Length s)

/-- The tokens of the field, when it is a string. -/
def stringTokens (value : Json) (key : String) : Nat :=
  match value.getString key with
  | some s => tokensOfLength (utf16Length s)
  | none => 0

mutual

def estimateTokens : Json → Nat
  | .null => 0
  | .string s => textTokens s
  | .number _ | .bool _ => 1
  | .array items => estimateItems items
  | .object fields =>
    let value := Json.object fields
    if (value.get "content").isSome then
      4 + stringTokens value "role" + estimateField "content" false fields +
        stringTokens value "name" + estimateField "tool_calls" true fields
    else if value.getString "type" = some "image_url" ∨ value.getString "type" = some "image" then
      800
    else if value.getString "type" = some "text" ∧ (value.getString "text").isSome then
      stringTokens value "text"
    else tokensOfLength (utf16Length (String.ofList value.stringify))

/-- Four tokens more for each item. -/
def estimateItems : List Json → Nat
  | [] => 0
  | item :: rest => estimateTokens item + 4 + estimateItems rest

/-- The tokens of the field of a key, or only of an array there. -/
def estimateField (key : String) (onlyArray : Bool) : List (String × Json) → Nat
  | [] => 0
  | (k, value) :: rest =>
    if k = key then
      match value with
      | .array items => estimateItems items
      | value => if onlyArray then 0 else estimateTokens value
    else estimateField key onlyArray rest

end

end

/-! ## Extraction -/

section

variable [Host]

/-- The field is an array with an item. -/
def hasItems (value : Json) (key : String) : Bool :=
  match value.get key with
  | some (.array items) => !items.isEmpty
  | _ => false

/-- A part of a message's content that is an image. -/
def isImagePart (part : Json) : Bool :=
  match part with
  | .object _ =>
    let partType := Host.toLowerCase ((part.getString "type").getD "")
    partType = "image_url" ∨ partType = "image" ∨ (part.get "image_url").isSome ∨
      (part.get "image").isSome
  | _ => false

def hasImage (message : Json) : Bool :=
  match message with
  | .object _ =>
    (match message.get "content" with
      | some (.array parts) => parts.any isImagePart
      | some (.string content) => includes content "data:image/"
      | _ => false) || hasItems message "images"
  | _ => false

/-- The response format asks for JSON. -/
def asksJson (responseFormat : Json) : Bool :=
  let isJson (name : String) : Bool := name = "json_object" ∨ name = "json_schema"
  match responseFormat with
  | .string s => isJson (cleanName s)
  | .object _ => isJson (cleanName ((responseFormat.getString "type").getD "")) ||
      (responseFormat.get "json_schema").isSome
  | _ => false

/-- A choice that is made, and is not `"none"`. -/
def isChosen (choice : Option Json) : Bool :=
  match choice with
  | none | some (.string "none") => false
  | some _ => true

namespace ChatRouteRequest

variable (request : ChatRouteRequest)

def requiresTools : Bool :=
  request.tools.any (!·.isEmpty) || request.functions.any (!·.isEmpty) ||
    isChosen request.toolChoice || isChosen request.functionCall

def requiresVision : Bool := request.messages.any hasImage

def requiresJsonSchema : Bool := request.responseFormat.any asksJson

/-- The limit the audit reads. It knows the two spellings with underscores. -/
def auditedMaxTokens : Option Number :=
  ((request.max_tokens.filter Number.isPositive).or
    (request.max_completion_tokens.filter Number.isPositive)).map Number.trunc

variable [NumberText]

/-- The estimate of messages, system prompt, tools and functions. -/
def promptTokens : Nat :=
  estimateItems request.messages + (request.system.map estimateTokens).getD 0 +
    (request.tools.map estimateItems).getD 0 + (request.functions.map estimateItems).getD 0

/-- The estimate the audit uses: the one given, unless it is negative or missing. -/
def auditedPromptTokens (estimatedPromptTokens : Option Number) : Number :=
  match estimatedPromptTokens.filter (·.atLeast 0) with
  | some estimate => estimate.trunc
  | none => .finite request.promptTokens

/-- `extractRequirements`, with no option but an estimate. A routed request is never itself a
record of requirements. -/
def extractRequirements (estimatedPromptTokens : Option Number) : CapabilityRequirements :=
  let maxOutputTokens := request.auditedMaxTokens
  let totalRequiredTokens :=
    (request.auditedPromptTokens estimatedPromptTokens).add (maxOutputTokens.getD (.finite 0))
  { requiresTools := request.requiresTools
    requiresVision := request.requiresVision
    requiresJsonSchema := request.requiresJsonSchema
    requiresStreaming := if request.stream then some true else none
    minContextLength := if totalRequiredTokens.isPositive then some totalRequiredTokens else none
    maxOutputTokens
    onlyActive := some true }

end ChatRouteRequest

end

end KeyCollective
