import KeyCollective.Dashboard.AdminVerifier

/-!
# The gateway

Every request enters by the host it names: the administrator's host is shut unless the request
is verified, the console's serves its pages, and what is left goes to the router. The router
serves public routes as they are, and all others for the tenant that authentication finds.
-/

namespace KeyCollective.Gateway

open AuthMiddleware

inductive EdgeSubdomain where
  | api
  | console
  | admin
  | apex
deriving DecidableEq

structure EdgeRequest extends DashboardRequest where
  /-- `request.headers.get("host") || url.host || ""`. -/
  host : String := ""
  accept : Option String := none
  kcTenantHeader : Option String := none
  /-- The body parses as JSON. -/
  isJson : Bool := false

/-- The bindings and options that routing reads. -/
structure EdgeEnv extends WorkerEnv where
  midnightFreeze : Option String := none
  hasKeyPool : Bool := true
  hasAssets : Bool := false
  requireAuth : Option Bool := none

inductive RouteError where
  | auth (error : AuthError)
  | tenantIsolation (message tenantId attemptedTenantId : String)
  | missingKeyPool (message : String)
  | blankTenant (message : String)
  | invalidRequestBody (message : String)
deriving DecidableEq

/-- Whom the router hands a request to. -/
inductive Handled where
  | frozen
  | health
  | report
  | openApiSpec
  | demoToken
  | listModels
  | getModel (modelId : String)
  | dashboard (pathname method : String)
  /-- The tenant's pool, at a path of its own. -/
  | keyPool (tenantId path : String)
  | chat (context : AuthenticatedContext)
  | notFound (method pathname : String)
  | failed (error : RouteError)
deriving DecidableEq

/-- What the gateway makes of a request. -/
inductive Served where
  | preflight
  | adminDenied
  | admin
  | console
  | redirect
  | healthProbe
  | assets
  | ready
  | routed (handled : Handled)
deriving DecidableEq

/-- `pathname.replace(/\/+$/, "") || "/"`. -/
def stripSlashes (pathname : String) : String :=
  let kept := String.ofList (pathname.toList.rdropWhile (· = '/'))
  if kept = "" then "/" else kept

/-- `host.split(":")[0]`. -/
def hostName (host : String) : String := String.ofList (host.toList.takeWhile (· ≠ ':'))

/-- `pathname.replace(/^\/v1/, "") || "/"`. -/
def poolPath (pathname : String) : String :=
  let kept :=
    if startsWith pathname "/v1" then String.ofList (pathname.toList.drop 3) else pathname
  if kept = "" then "/" else kept

section

variable [Host]

def parseSubdomain (host : String) : EdgeSubdomain :=
  let normalized := trim (Host.toLowerCase (hostName host))
  if host = "" then .apex
  else if startsWith normalized "api." ∨ normalized = "api" then .api
  else if startsWith normalized "console." ∨ normalized = "console" then .console
  else if startsWith normalized "admin." ∨ normalized = "admin" then .admin
  else .apex

/-! ## The router -/

/-- A context for a request that needs no authentication. -/
def unauthenticatedContext (request : EdgeRequest) : AuthenticatedContext :=
  let headerTenant := ((request.tenantHeader <|> request.kcTenantHeader).getD "default")
  { tenantId := headerTenant
    isAuthenticated := false
    token :=
      { id := "unauthenticated"
        hashSha256 := ""
        tenantId := headerTenant
        budgetMicrodollars := 0
        spentMicrodollars := 0
        allowedProviders := []
        rpmLimit := 1000
        expiresAt := none }
    rpmLimit := (1000 : Int)
    currentRpm := 1
    remainingRpm := (999 : Int)
    budgetMicrodollars := 0
    spentMicrodollars := 0 }

def isModelPath (pathname : String) : Bool :=
  startsWith pathname "/v1/models/" || startsWith pathname "/models/"

def isPoolPath (pathname : String) : Bool :=
  ["/v1/keys", "/keys", "/v1/metrics", "/metrics", "/v1/capacity", "/capacity"].any
    (startsWith pathname)

def isChatPath (pathname : String) : Bool :=
  ["/v1/chat/completions", "/chat/completions", "/v1/route", "/", ""].contains pathname

/-- Routes that are served before authentication. -/
def publicRoute (request : EdgeRequest) : Option Handled :=
  let pathname := stripSlashes request.pathname
  let method := Host.toUpperCase request.method
  if pathname = "/health" ∨ pathname = "/v1/health" then some .health
  else if method = "POST" ∧ (pathname = "/v1/report" ∨ pathname = "/report") then some .report
  else if method = "GET" ∧ (pathname = "/openapi.json" ∨ pathname = "/v1/openapi.json") then
    some .openApiSpec
  else if (method = "POST" ∨ method = "GET") ∧
      (pathname = "/v1/demo/token" ∨ pathname = "/demo/token" ∨ pathname = "/api/demo/token") then
    some .demoToken
  else if method = "GET" ∧ (pathname = "/v1/models" ∨ pathname = "/models") then some .listModels
  else if method = "GET" ∧ isModelPath pathname then
    some (.getModel ((pathname.splitOn "/").getLastD ""))
  else if startsWith pathname "/api/" then some (.dashboard pathname method)
  else none

/-- `forwardToDO` by the tenant's stub. -/
def forwardToDO (env : EdgeEnv) (request : EdgeRequest) (tenantId : String) : Handled :=
  if ¬env.hasKeyPool then
    .failed (.missingKeyPool
      ("No KEY_POOL Durable Object namespace binding or keyPoolFactory found for tenant '" ++
        tenantId ++ "'"))
  else if isBlank tenantId then
    .failed (.blankTenant "DurableObjectKeyPoolClient requires a non-empty tenantId")
  else .keyPool tenantId (poolPath request.pathname)

/-- The header that names a tenant, when it is not the one of the token. -/
def otherTenant (request : EdgeRequest) (context : AuthenticatedContext) : Option String :=
  (request.tenantHeader.filter (· ≠ "")).filter fun header =>
    trim header ≠ trim context.tenantId

def dispatchFor (env : EdgeEnv) (request : EdgeRequest) (context : AuthenticatedContext) : Handled :=
  let pathname := stripSlashes request.pathname
  let method := Host.toUpperCase request.method
  match otherTenant request context with
  | some header =>
    .failed (.tenantIsolation
      ("Tenant isolation violation: Header x-tenant-id '" ++ header ++
        "' does not match authenticated token tenant '" ++ context.tenantId ++ "'")
      context.tenantId header)
  | none =>
    if isPoolPath pathname then forwardToDO env request context.tenantId
    else if method = "POST" ∧ isChatPath pathname then
      if request.isJson then .chat context
      else .failed (.invalidRequestBody "Malformed JSON in request body")
    else .notFound method pathname

/-- `dispatchRoute`, where `auth` is what authentication makes of the request. -/
def dispatchRoute (env : EdgeEnv) (preAuthenticatedContext : Option AuthenticatedContext)
    (auth : Except AuthError AuthenticatedContext) (request : EdgeRequest) : Handled :=
  if env.midnightFreeze = some "true" ∨ env.midnightFreeze = some "1" then .frozen
  else
    match publicRoute request with
    | some handled => handled
    | none =>
      match preAuthenticatedContext with
      | some context => dispatchFor env request context
      | none =>
        if env.requireAuth = some false then
          dispatchFor env request (unauthenticatedContext request)
        else
          match auth with
          | .ok context => dispatchFor env request context
          | .error error => .failed (.auth error)

/-! ## The worker -/

/-- The pages at the apex. -/
def servesAssets (env : EdgeEnv) (request : EdgeRequest) : Bool :=
  let pathname := stripSlashes request.pathname
  env.hasAssets && (startsWith pathname "/assets/" || pathname = "/favicon.ico" ||
    pathname = "/favicon.svg" || pathname = "/dashboard" ||
    (pathname = "/" && request.accept.any fun accept => includes accept "text/html"))

/-- `fetch`, where `isAdmin` is what the verifier makes of the request. An error is one that
the verifier throws. -/
def fetch (env : EdgeEnv) (isAdmin : Except Unit Bool) (auth : Except AuthError AuthenticatedContext)
    (request : EdgeRequest) : Except Unit Served :=
  let pathname := stripSlashes request.pathname
  let method := Host.toUpperCase request.method
  if method = "OPTIONS" then .ok .preflight
  else if parseSubdomain request.host = .admin then
    isAdmin.map fun isAdmin => if isAdmin then .admin else .adminDenied
  else if parseSubdomain request.host = .console then
    if startsWith pathname "/api/" ∨ startsWith pathname "/v1/" ∨ pathname = "/openapi.json" then
      .ok (.routed (dispatchRoute env none auth request))
    else .ok .console
  else if trim (Host.toLowerCase (hostName request.host)) = "key-col.axe08.tech" ∧
      pathname = "/" then .ok .redirect
  else if method = "GET" ∧ (pathname = "/health" ∨ pathname = "/v1/health") then .ok .healthProbe
  else if parseSubdomain request.host = .apex ∧ method = "GET" ∧ servesAssets env request then
    .ok .assets
  else if method = "GET" ∧ pathname = "/" then .ok .ready
  else .ok (.routed (dispatchRoute env none auth request))

end

/-! ## A request and what it meets -/

/-- A request, the worker's bindings and options, and the state of its tables and limiter. -/
structure EdgeVisit where
  env : EdgeEnv
  gate : AdminGate
  options : AuthMiddlewareOptions
  tokens : AuthTokens
  limiter : AdmitRequest → Except AuthError Admitted
  now : Time
  request : EdgeRequest

namespace EdgeVisit

variable [Edge] [Host] [DateParser] (visit : EdgeVisit)

def headers : AuthHeaders := ⟨visit.request.authorization, visit.request.projectId⟩

def auth : Except AuthError AuthenticatedContext :=
  authenticate visit.options visit.env.toWorkerEnv visit.tokens visit.headers visit.now.ms
    visit.limiter

def served : Except Unit Served :=
  fetch visit.env (visit.gate.verifyAdminRequest visit.request.toDashboardRequest visit.now)
    visit.auth visit.request

end EdgeVisit

/-- The tenant whose pool or whose chat a request reaches. -/
def Handled.tenant : Handled → Option String
  | keyPool tenantId _ => some tenantId
  | chat context => some context.tenantId
  | _ => none

def Served.tenant : Served → Option String
  | routed handled => handled.tenant
  | _ => none

namespace EdgeVisit

section

variable [Edge] [Host] (visit : EdgeVisit)

/-- The token of the request speaks for a tenant. -/
inductive Bears : String → Prop where
  /-- It is stored for the tenant, valid, and admitted by the limiter. -/
  | stored {rawToken record admitted}
      (presented : extractBearerToken visit.request.authorization = .ok rawToken)
      (found : visit.tokens.findByToken rawToken = some record)
      (valid : checkRecord visit.options visit.now.ms record = .ok ())
      (admits : visit.limiter (admitRequest visit.options visit.headers record) = .ok admitted) :
      Bears record.tenantId
  /-- It is the master key. -/
  | master {rawToken}
      (presented : extractBearerToken visit.request.authorization = .ok rawToken)
      (unknown : visit.tokens.findByToken rawToken = none)
      (key : (visit.options.masterKey <|> visit.env.kcMasterKey).filter (· ≠ "") = some rawToken) :
      Bears "admin"
  /-- It is a demo token that the demo pool allows. -/
  | demo {rawToken consume}
      (presented : extractBearerToken visit.request.authorization = .ok rawToken)
      (unknown : visit.tokens.findByToken rawToken = none)
      (other : (visit.options.masterKey <|> visit.env.kcMasterKey).filter (· ≠ "") ≠ some rawToken)
      (pool : visit.env.demoPool = some consume) (named : startsWith rawToken "kc_demo_" = true)
      (allowed : (consume rawToken).allowed = true) : Bears "demo"

theorem auth_tenant_iff (tenantId : String) :
    (∃ context, visit.auth = .ok context ∧ context.tenantId = tenantId) ↔
      visit.env.hasDb = true ∧ visit.Bears tenantId := by
  constructor
  · rintro ⟨context, authenticated, rfl⟩
    unfold auth authenticate at authenticated
    split at authenticated
    case h_1 => cases authenticated
    case h_2 rawToken presented =>
      split at authenticated
      case isTrue => cases authenticated
      case isFalse hasDb =>
        refine ⟨by simpa using hasDb, ?_⟩
        split at authenticated
        case h_1 unknown =>
          unfold withoutRecord at authenticated
          split at authenticated
          case isTrue key =>
            cases authenticated
            exact .master presented unknown key
          case isFalse other =>
            split at authenticated
            case h_1 => cases authenticated
            case h_2 consume pool =>
              split at authenticated
              case isTrue allowed =>
                cases authenticated
                obtain ⟨pool, named⟩ := Option.filter_eq_some_iff.mp pool
                exact .demo presented unknown other pool named allowed
              case isFalse => cases authenticated
        case h_2 record found =>
          split at authenticated
          case h_1 => cases authenticated
          case h_2 valid =>
            cases admits : visit.limiter (admitRequest visit.options visit.headers record) with
            | error => simp [Except.map, admits] at authenticated
            | ok admitted =>
              simp only [admits, Except.map] at authenticated
              cases authenticated
              exact .stored presented found valid admits
  · rintro ⟨hasDb, bears⟩
    cases bears with
    | @stored rawToken record admitted presented found valid admits =>
      refine ⟨recordContext record admitted, ?_, rfl⟩
      simp only [auth, authenticate, headers, presented, hasDb, found, valid]
      rw [← headers, admits]
      rfl
    | @master rawToken presented unknown key =>
      refine ⟨masterContext rawToken, ?_, rfl⟩
      simp only [auth, authenticate, headers, presented, hasDb, unknown, withoutRecord, key]
      rfl
    | @demo rawToken consume presented unknown other pool named allowed =>
      refine ⟨demoContext rawToken (consume rawToken), ?_, rfl⟩
      have asked : visit.env.demoPool.filter (fun _ => startsWith rawToken "kc_demo_") =
          some consume := by
        rw [pool, Option.filter_some, if_pos named]
      simp only [auth, authenticate, headers, presented, hasDb, unknown, withoutRecord, other,
        asked, allowed]
      rfl

/-! ## Routes of a tenant -/

/-- No header names another tenant. -/
def HeaderAgrees (visit : EdgeVisit) (tenantId : String) : Prop :=
  ∀ header, visit.request.tenantHeader = some header → header ≠ "" → trim header = trim tenantId

/-- A request for a tenant's pool, which is there, or for its chat. -/
def TenantRoute (env : EdgeEnv) (request : EdgeRequest) (tenantId : String) : Prop :=
  isPoolPath (stripSlashes request.pathname) = true ∧ env.hasKeyPool = true ∧
      isBlank tenantId = false ∨
    isPoolPath (stripSlashes request.pathname) = false ∧
      Host.toUpperCase request.method = "POST" ∧
        isChatPath (stripSlashes request.pathname) = true ∧ request.isJson = true

def Frozen (visit : EdgeVisit) : Prop :=
  visit.env.midnightFreeze = some "true" ∨ visit.env.midnightFreeze = some "1"

omit [Edge] [Host] in
theorem otherTenant_none_iff (request : EdgeRequest) (context : AuthenticatedContext) :
    otherTenant request context = none ↔
      ∀ header, request.tenantHeader = some header → header ≠ "" →
        trim header = trim context.tenantId := by
  unfold otherTenant
  cases request.tenantHeader with
  | none => simp
  | some header =>
    by_cases empty : header = "" <;> simp [Option.filter_some, empty]

omit [Edge] [Host] in
theorem tenant_forwardToDO (env : EdgeEnv) (request : EdgeRequest) (owner tenantId : String) :
    (forwardToDO env request owner).tenant = some tenantId ↔
      owner = tenantId ∧ env.hasKeyPool = true ∧ isBlank tenantId = false := by
  unfold forwardToDO
  split
  case isTrue unbound =>
    refine iff_of_false (fun served => by cases served) fun bound => unbound bound.2.1
  case isFalse bound =>
    split
    case isTrue blank =>
      refine iff_of_false (fun served => by cases served) ?_
      rintro ⟨rfl, -, text⟩
      rw [blank] at text
      cases text
    case isFalse text =>
      simp only [Handled.tenant, Option.some.injEq]
      refine ⟨?_, And.left⟩
      rintro rfl
      exact ⟨rfl, not_not.mp bound, Bool.eq_false_iff.mpr text⟩

omit [Edge] in
theorem tenant_dispatchFor (env : EdgeEnv) (request : EdgeRequest) (context : AuthenticatedContext)
    (tenantId : String) :
    (dispatchFor env request context).tenant = some tenantId ↔
      otherTenant request context = none ∧ context.tenantId = tenantId ∧
        TenantRoute env request tenantId := by
  simp only [dispatchFor, TenantRoute]
  cases otherTenant request context with
  | some header => simp [Handled.tenant]
  | none =>
    cases pool : isPoolPath (stripSlashes request.pathname) with
    | true => simp [tenant_forwardToDO]
    | false =>
      simp only [Bool.false_eq_true, if_false, true_and, false_and, false_or]
      split
      case isTrue chat =>
        split
        case isTrue json => simp [Handled.tenant, chat, json]
        case isFalse broken => simp [Handled.tenant, broken]
      case isFalse other =>
        refine iff_of_false (fun served => by cases served) ?_
        rintro ⟨-, post, path, -⟩
        exact other ⟨post, path⟩

omit [Edge] in
theorem publicRoute_tenant {request : EdgeRequest} {handled : Handled}
    (served : publicRoute request = some handled) : handled.tenant = none := by
  simp only [publicRoute] at served
  split_ifs at served <;> cases served <;> rfl

/-- Whom a router that requires authentication acts for. -/
theorem tenant_dispatchRoute (required : visit.env.requireAuth ≠ some false) (tenantId : String) :
    (dispatchRoute visit.env none visit.auth visit.request).tenant = some tenantId ↔
      ¬visit.Frozen ∧ publicRoute visit.request = none ∧
        TenantRoute visit.env visit.request tenantId ∧
        (visit.env.hasDb = true ∧ visit.Bears tenantId) ∧ visit.HeaderAgrees tenantId := by
  rw [← auth_tenant_iff]
  unfold dispatchRoute
  split
  case isTrue frozen => simp [Handled.tenant, Frozen, frozen]
  case isFalse thawed =>
    cases open_route : publicRoute visit.request with
    | some handled =>
      refine iff_of_false ?_ ?_
      · intro served
        rw [publicRoute_tenant open_route] at served
        cases served
      · rintro ⟨-, shut, -⟩
        cases shut
    | none =>
      simp only [true_and]
      cases authenticated : visit.auth with
      | error e => simp [Handled.tenant]
      | ok context =>
        simp only [tenant_dispatchFor, otherTenant_none_iff, Except.ok.injEq, exists_eq_left']
        constructor
        · rintro ⟨agrees, rfl, route⟩
          exact ⟨thawed, route, rfl, agrees⟩
        · rintro ⟨-, route, rfl, agrees⟩
          exact ⟨agrees, rfl, route⟩

/-! ## The way in -/

/-- No host keeps the request from the router. -/
structure Enters (visit : EdgeVisit) : Prop where
  method : Host.toUpperCase visit.request.method ≠ "OPTIONS"
  host : parseSubdomain visit.request.host ≠ .admin
  console : parseSubdomain visit.request.host = .console →
    startsWith (stripSlashes visit.request.pathname) "/api/" = true ∨
      startsWith (stripSlashes visit.request.pathname) "/v1/" = true ∨
        stripSlashes visit.request.pathname = "/openapi.json"
  apex : parseSubdomain visit.request.host ≠ .console →
    ¬(trim (Host.toLowerCase (hostName visit.request.host)) = "key-col.axe08.tech" ∧
      stripSlashes visit.request.pathname = "/")

omit [Edge] in
/-- Only the router serves a tenant. -/
theorem fetch_tenant {isAdmin : Except Unit Bool} {auth : Except AuthError AuthenticatedContext}
    {served : Served} {tenantId : String}
    (fetched : fetch visit.env isAdmin auth visit.request = .ok served)
    (tenant : served.tenant = some tenantId) :
    served = .routed (dispatchRoute visit.env none auth visit.request) ∧ visit.Enters := by
  simp only [fetch] at fetched
  split_ifs at fetched with options admin console inside apex probe assets ready
  · cases fetched
    cases tenant
  · cases isAdmin with
    | error => cases fetched
    | ok isAdmin =>
      simp only [Except.map, Except.ok.injEq] at fetched
      subst fetched
      cases isAdmin <;> cases tenant
  · cases fetched
    exact ⟨rfl, options, admin, fun _ => inside, fun other => absurd console other⟩
  · cases fetched
    cases tenant
  · cases fetched
    cases tenant
  · cases fetched
    cases tenant
  · cases fetched
    cases tenant
  · cases fetched
    cases tenant
  · cases fetched
    exact ⟨rfl, options, admin, fun there => absurd there console, fun _ => apex⟩

omit [Edge] [Host] in
theorem isPoolPath_starts {pathname : String} (pool : isPoolPath pathname = true) :
    ∃ c rest, pathname.toList = '/' :: c :: rest ∧ c ∈ ['v', 'k', 'm', 'c'] := by
  have starts : ∀ head ∈ ["/v1/keys", "/keys", "/v1/metrics", "/metrics", "/v1/capacity",
      "/capacity"], ∃ c tail, head.toList = '/' :: c :: tail ∧ c ∈ ['v', 'k', 'm', 'c'] := by
    simp
  obtain ⟨head, mem, found⟩ := List.any_eq_true.mp pool
  obtain ⟨c, tail, eq, letter⟩ := starts head mem
  obtain ⟨rest, whole⟩ := List.isPrefixOf_iff_prefix.mp found
  exact ⟨c, tail ++ rest, by rw [← whole, eq]; rfl, letter⟩

omit [Edge] [Host] in
/-- No page is at a pool's path. -/
theorem pool_not_page {env : EdgeEnv} {request : EdgeRequest}
    (pool : isPoolPath (stripSlashes request.pathname) = true) :
    servesAssets env request = false ∧ stripSlashes request.pathname ≠ "/" := by
  obtain ⟨c, rest, path, letter⟩ := isPoolPath_starts pool
  have differs : ∀ text : String,
      (∀ d tail, text.toList = '/' :: d :: tail → d ∉ ['v', 'k', 'm', 'c']) →
        stripSlashes request.pathname ≠ text := by
    rintro text other rfl
    exact other c rest path letter
  have other : c ≠ 'a' := by
    rintro rfl
    exact absurd letter (by decide)
  have assets : startsWith (stripSlashes request.pathname) "/assets/" = false := by
    have first : ('a' == c) = false := beq_eq_false_iff_ne.mpr other.symm
    simp [startsWith, path, List.isPrefixOf_cons_cons, first]
  have root : stripSlashes request.pathname ≠ "/" := differs _ (by simp)
  have icon : stripSlashes request.pathname ≠ "/favicon.ico" := differs _ (by simp)
  have drawing : stripSlashes request.pathname ≠ "/favicon.svg" := differs _ (by simp)
  have page : stripSlashes request.pathname ≠ "/dashboard" := differs _ (by simp)
  exact ⟨by simp [servesAssets, assets, root, icon, drawing, page], root⟩

omit [Edge] in
theorem publicRoute_health {request : EdgeRequest} (shut : publicRoute request = none) :
    ¬(stripSlashes request.pathname = "/health" ∨ stripSlashes request.pathname = "/v1/health") := by
  intro health
  simp only [publicRoute, if_pos health] at shut
  cases shut

omit [Edge] in
theorem fetch_enters {isAdmin : Except Unit Bool} {auth : Except AuthError AuthenticatedContext}
    {tenantId : String} (enters : visit.Enters) (shut : publicRoute visit.request = none)
    (route : TenantRoute visit.env visit.request tenantId) :
    fetch visit.env isAdmin auth visit.request =
      .ok (.routed (dispatchRoute visit.env none auth visit.request)) := by
  have page : ¬(Host.toUpperCase visit.request.method = "GET" ∧
      (servesAssets visit.env visit.request = true ∨
        stripSlashes visit.request.pathname = "/")) := by
    rintro ⟨get, page⟩
    obtain ⟨pool, -⟩ | ⟨-, post, -⟩ := route
    · obtain ⟨none_served, other⟩ := @pool_not_page visit.env visit.request pool
      obtain served | root := page
      · rw [none_served] at served
        cases served
      · exact other root
    · rw [get] at post
      exact absurd post (by decide)
  have health := publicRoute_health shut
  simp only [fetch]
  rw [if_neg enters.method, if_neg enters.host]
  split
  case isTrue console => rw [if_pos (enters.console console)]
  case isFalse elsewhere =>
    rw [if_neg (enters.apex elsewhere), if_neg (fun probe => health probe.2),
      if_neg (fun assets => page ⟨assets.2.1, .inl assets.2.2⟩),
      if_neg (fun ready => page ⟨ready.1, .inr ready.2⟩)]

/-- The worker serves a tenant's pool or chat exactly when the host lets the request in, the
token of the request speaks for that tenant, and no header names another. -/
theorem served_tenant_iff [DateParser] (visit : EdgeVisit)
    (required : visit.env.requireAuth ≠ some false) (tenantId : String) :
    (∃ served, visit.served = .ok served ∧ served.tenant = some tenantId) ↔
      visit.Enters ∧ ¬visit.Frozen ∧ publicRoute visit.request = none ∧
        TenantRoute visit.env visit.request tenantId ∧
        (visit.env.hasDb = true ∧ visit.Bears tenantId) ∧ visit.HeaderAgrees tenantId := by
  constructor
  · rintro ⟨served, fetched, tenant⟩
    obtain ⟨rfl, enters⟩ := visit.fetch_tenant fetched tenant
    exact ⟨enters, (visit.tenant_dispatchRoute required tenantId).mp tenant⟩
  · rintro ⟨enters, thawed, shut, route, entitled⟩
    refine ⟨_, visit.fetch_enters enters shut route, ?_⟩
    exact (visit.tenant_dispatchRoute required tenantId).mpr ⟨thawed, shut, route, entitled⟩

end

section

attribute [local instance] asciiHost plainEdge AdminGate.isoDates

/-- The holder of the master key asks the chat on the host of the interface. -/
def masterChat : EdgeVisit where
  env := { kcMasterKey := some "master", hasDb := true, demoPool := none }
  gate := {}
  options := {}
  tokens := .empty
  limiter _ := .ok ⟨(60 : Int), 1, (59 : Int)⟩
  now := AdminGate.epoch
  request :=
    { method := "POST"
      pathname := "/v1/chat/completions/"
      authorization := some "Bearer master"
      host := "api.example.com:443"
      isJson := true }

theorem masterChat_bears : masterChat.Bears "admin" := by
  have presented : extractBearerToken masterChat.request.authorization = .ok "master" := by
    decide +kernel
  exact .master presented rfl (by decide)

theorem served_tenant_master :
    ∃ served, masterChat.served = .ok served ∧ served.tenant = some "admin" := by
  apply (served_tenant_iff masterChat (by decide) "admin").mpr
  refine ⟨⟨by decide, by decide, fun console => ?_, fun _ apex => ?_⟩, ?_, ?_, ?_,
    ⟨rfl, masterChat_bears⟩, fun header named => ?_⟩
  · exact absurd console (by decide)
  · exact absurd apex.2 (by decide)
  · rintro (frozen | frozen) <;> cases frozen
  · decide
  · exact .inr ⟨by decide, by decide, by decide, rfl⟩
  · cases named

end

end EdgeVisit

end KeyCollective.Gateway
