import KeyCollective.Auth.Middleware
import KeyCollective.Router.Cascade
import KeyCollective.Worker.Ledger

/-!
# Chat completions

What the worker does once a route has succeeded: it reports the cost to the pool,
appends a ledger event and adds to the token's spend, swallowing the errors of
each. A non-streamed completion is settled at once, a streamed one when the client
has read it to its end. Telemetry is left out.
-/

namespace KeyCollective

variable [Host]

/-- One request to the chat endpoint and what happens while it is served. -/
structure ChatRequest where
  stream : Bool
  auth : AuthMiddleware.AuthenticatedContext
  traceId : String
  latencyMs : Int
  candidates : List (ModelDef × Round)

namespace ChatHandler

/-- The event both handlers append. -/
def ledgerEvent (cascadeRes : CascadeRouteResponse) (usage : Option StreamUsage)
    (costMicrodollars : Int) (request : ChatRequest) : CostLedgerEvent where
  requestId := request.traceId
  tenantId := request.auth.tenantId
  keyId := cascadeRes.modelDef.id
  provider := cascadeRes.provider
  modelId := cascadeRes.model
  promptTokens := (usage.map StreamUsage.promptTokens).getD 0
  completionTokens := (usage.map StreamUsage.completionTokens).getD 0
  cachedTokens := (usage.bind StreamUsage.cachedTokens).getD 0
  reasoningTokens := (usage.bind StreamUsage.reasoningTokens).getD 0
  costMicrodollars := costMicrodollars
  latencyMs := request.latencyMs
  statusCode := 200

/-- The steps both handlers take, each on its own usage and cost. -/
def settle (cascadeRes : CascadeRouteResponse) (usage : Option StreamUsage)
    (costMicrodollars : Int) (request : ChatRequest) (books : Books) : List PoolReport × Books :=
  let reports :=
    if 0 < costMicrodollars ∧ cascadeRes.modelDef.id ≠ "" then
      [.recordUsage cascadeRes.modelDef.id costMicrodollars]
    else []
  let booked :=
    (books.recordEvent (ledgerEvent cascadeRes usage costMicrodollars request)).toOption.getD books
  let spent :=
    if 0 < costMicrodollars then
      (booked.recordSpend request.auth.token.id request.auth.tenantId
        costMicrodollars).toOption.getD booked
    else booked
  (reports, spent)

def handleNonStreamingResponse (cascadeRes : CascadeRouteResponse) (request : ChatRequest)
    (books : Books) : List PoolReport × Books :=
  settle cascadeRes cascadeRes.usage cascadeRes.costMicrodollars request books

/-- Runs when the stream has ended: the usage and the cost are taken then. -/
def finalizeStream (registry : ModelRegistry) (cascadeRes : CascadeRouteResponse)
    (request : ChatRequest) (books : Books) : List PoolReport × Books :=
  let usage := cascadeRes.response.usage
  let costMicrodollars := match usage with
    | some usage => CascadeRouter.costOrZero registry cascadeRes.model usage
    | none => 0
  settle cascadeRes usage costMicrodollars request books

/-- The route request of the endpoint carries no key, no tenant and no fallback limit. -/
def cascadeRequest (request : ChatRequest) : CascadeRouteRequest where
  stream := request.stream

def route (router : CascadeRouter) (request : ChatRequest) : Cascade :=
  router.executeCascadeRouting (cascadeRequest request) false request.candidates

/-- A request served to its end: what it reported to the pool, in order, and the books
after it. A failed route books nothing. -/
def handleChatCompletions (router : CascadeRouter) (request : ChatRequest) (books : Books) :
    List PoolReport × Books :=
  let cascade := route router request
  let routed := cascade.sent.flatMap Sent.reports
  match cascade.outcome with
  | .error _ => (routed, books)
  | .ok cascadeRes =>
    if request.stream then
      let (settled, books) := finalizeStream router.registry cascadeRes request books
      (routed ++ cascadeRes.response.onDone ++ settled, books)
    else
      let (settled, books) := handleNonStreamingResponse cascadeRes request books
      (routed ++ settled, books)

end ChatHandler

end KeyCollective
