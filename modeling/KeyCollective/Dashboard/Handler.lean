import KeyCollective.Auth.Middleware

/-!
# The dashboard's requests

The tenant a dashboard request acts for is put together from the token it presents, which
may be in three places, from what authentication makes of the token, and from the
`x-tenant-id` header. Two routes are served before that.
-/

namespace KeyCollective

structure SyncSessionBody where
  id : Option String
  email : Option String
  tier : Option String
  authProvider : Option String

structure CreateTokenBody where
  id : Option String := none
  rpmLimit : Option Int := none
  budgetMicrodollars : Option Int := none
  allowedProviders : Option (List String) := none
  /-- `none` is a date that is missing or not valid. -/
  expiresAt : Option Int := none
  tenantId : Option String := none

structure GithubProfile where
  id : Option Nat
  login : Option String
  email : Option String

structure DashboardRequest where
  method : String
  pathname : String
  authorization : Option String := none
  cookie : Option String := none
  tenantHeader : Option String := none
  projectId : Option String := none
  /-- The query's `token`, `admin_token` and `code`. -/
  token : Option String := none
  adminToken : Option String := none
  code : Option String := none
  /-- The body as a session to sync; `none` is no JSON. -/
  syncSession : Option SyncSessionBody := none
  /-- The body as a token to create; `none` is JSON that does not parse. -/
  createToken : Option CreateTokenBody := some {}
  /-- The profile GitHub returns for the code, if it takes it. -/
  github : Option GithubProfile := none

inductive DashboardRoute where
  | telemetryStream
  | session
  | admin
  | getKeys
  | postKeys
  | deleteKey
  | poolMode
  | rotateKeySecret
  | testKey
  | getProjects
  | postProjects
  | deleteProject
  | updateProject
  | getTokens
  | postTokens
  | deleteToken
  | reportKeyAbuse
  | getLogs
  | getStats
  | poolRoute
  | notFound
deriving DecidableEq, Repr

/-- `/^\/api\/keys\/[^/]+\/pool-mode$/`. -/
def isPoolModePath (pathname : String) : Bool :=
  match pathname.splitOn "/" with
  | ["", "api", "keys", keyId, "pool-mode"] => keyId ≠ ""
  | _ => false

/-- `s.endsWith(tail)`. -/
def endsWith (s tail : String) : Bool := tail.toList.isSuffixOf s.toList

/-- The route of a method and a path, the first that matches. -/
@[irreducible] def dashboardRoute (method pathname : String) : DashboardRoute :=
  let isPath (path : String) : Bool := pathname = path
  let orSlash (path : String) : Bool := pathname = path ∨ pathname = path ++ "/"
  let orBelow (path : String) : Bool := pathname = path ∨ startsWith pathname (path ++ "/")
  if method = "GET" ∧ (isPath "/api/telemetry/stream" ∨ isPath "/v1/telemetry/stream") then
    .telemetryStream
  else if method = "GET" ∧ isPath "/api/session" then .session
  else if startsWith pathname "/api/admin/" then .admin
  else if method = "GET" ∧ isPath "/api/keys" then .getKeys
  else if method = "POST" ∧ isPath "/api/keys" then .postKeys
  else if method = "DELETE" ∧ startsWith pathname "/api/keys/" then .deleteKey
  else if method = "PATCH" ∧ isPoolModePath pathname then .poolMode
  else if method = "POST" ∧ startsWith pathname "/api/keys/" ∧ endsWith pathname "/rotate" then
    .rotateKeySecret
  else if method = "POST" ∧ startsWith pathname "/api/keys/" ∧ endsWith pathname "/test" then
    .testKey
  else if method = "GET" ∧ orSlash "/api/projects" then .getProjects
  else if method = "POST" ∧ orSlash "/api/projects" then .postProjects
  else if method = "DELETE" ∧ orBelow "/api/projects" then .deleteProject
  else if method = "PATCH" ∧ orBelow "/api/projects" then .updateProject
  else if method = "GET" ∧ orSlash "/api/tokens" then .getTokens
  else if method = "POST" ∧ orSlash "/api/tokens" then .postTokens
  else if method = "DELETE" ∧ orBelow "/api/tokens" then .deleteToken
  else if method = "POST" ∧ isPath "/api/abuse/report-key" then .reportKeyAbuse
  else if method = "GET" ∧ isPath "/api/logs" then .getLogs
  else if method = "GET" ∧ isPath "/api/stats" then .getStats
  else if method = "GET" ∧ (isPath "/api/pool/telemetry" ∨ isPath "/api/pool/standing" ∨
      isPath "/api/pool/contribution" ∨ isPath "/api/notifications") then .poolRoute
  else .notFound

/-- The route is run for a tenant. -/
def DashboardRoute.ActsForTenant (route : DashboardRoute) : Prop :=
  route ≠ .reportKeyAbuse ∧ route ≠ .notFound

instance (route : DashboardRoute) : Decidable route.ActsForTenant :=
  inferInstanceAs (Decidable (_ ∧ _))

/-- What `handle` does with a request: one of the two early routes, a refusal, or a route for
a tenant. -/
inductive Handled where
  | githubCallback
  | syncSession
  | unauthorized
  /-- The cookie's token does not decode, which is not caught. -/
  | failed
  | forbidden
  | route (route : DashboardRoute) (tenantId : String)
deriving DecidableEq, Repr

/-- A text that is not blank, trimmed. -/
def nonBlank (text : Option String) : Option String :=
  (text.filter fun text => !isBlank text).map trim

/-- `kc_auth_token=([^;]+)` at the start of a part of the cookie header. -/
def cookieValue (part : String) : Option String :=
  if startsWith part "kc_auth_token=" ∧ part ≠ "kc_auth_token=" then
    some (trim (remove part "kc_auth_token="))
  else none

/-- `match(/(?:^|;\s*)kc_auth_token=([^;]+)/)`: white space may stand before the name in all
parts but the first. -/
@[irreducible] def cookieToken (cookie : String) : Option String :=
  match cookie.splitOn ";" with
  | [] => none
  | first :: rest =>
    (first :: rest.map fun part =>
      String.ofList (part.toList.dropWhile isWhiteSpace)).findSome? cookieValue

/-- The token of a `Bearer` header. -/
@[irreducible] def headerToken (authorization : String) : Option String :=
  if startsWith authorization "Bearer " then some (trim (remove authorization "Bearer ")) else none

namespace DashboardRequest

variable [Edge]

/-- The presented token: of the header, else of the query, else of the cookie. An empty
text is no token. -/
def presented (request : DashboardRequest) : Except Unit (Option String) :=
  match (request.authorization.bind headerToken).filter (· ≠ "") with
  | some token => .ok (some token)
  | none =>
    match nonBlank (request.token.filter (· ≠ "") <|> request.adminToken) with
    | some token => .ok (some token)
    | none =>
      match request.cookie.bind cookieToken with
      | none => .ok none
      | some token =>
        match Edge.decodeURIComponent token with
        | none => .error ()
        | some token => .ok ((some token).filter (· ≠ ""))

end DashboardRequest

/-- The router of the dashboard: its own master key, and the middleware's options. -/
structure DashboardRouter where
  masterKey : Option String
  authOptions : AuthMiddleware.AuthMiddlewareOptions

namespace DashboardRouter

open AuthMiddleware

variable [Edge] [Host] (router : DashboardRouter) (env : WorkerEnv)

/-- `options.masterKey ?? env.KC_MASTER_KEY`, where an empty key is none. -/
def effectiveMasterKey : Option String :=
  (router.masterKey <|> env.kcMasterKey).filter (· ≠ "")

/-- Authentication of a request that was sent on with the token in its header. -/
def authenticateToken (db : Database) (request : DashboardRequest) (now : Int)
    (limiter : AdmitRequest → Except AuthError Admitted) (rawToken : String) :
    Except AuthError AuthenticatedContext :=
  authenticate router.authOptions env db.authTokens
    { authorization := some ("Bearer " ++ rawToken), projectId := request.projectId } now limiter

/-- `authContext.tenantId || "anonymous"`. -/
def ownTenant (context : AuthenticatedContext) : String :=
  if context.tenantId = "" then "anonymous" else context.tenantId

/-- The tenant a request acts for. `none` is the answer 401. -/
def resolveTenant (request : DashboardRequest) (rawToken : Option String)
    (auth : String → Except AuthError AuthenticatedContext) : Option String :=
  let header := nonBlank request.tenantHeader
  let resolved : Option String :=
    match rawToken with
    | none => some "anonymous"
    | some rawToken =>
      if router.effectiveMasterKey env = some rawToken then some (header.getD "admin")
      else
        match auth rawToken with
        | .ok context =>
          let tenantId := ownTenant context
          if tenantId = "default" ∨ tenantId = "anonymous" then some (header.getD tenantId)
          else some tenantId
        | .error _ => if request.method = "GET" then some "anonymous" else none
  resolved.map fun tenantId =>
    if tenantId = "anonymous" then header.getD tenantId else tenantId

/-- The administrator, the holder of the master key, or a user the table has as one. -/
def isAdmin (db : Database) (rawToken : Option String) (tenantId : String) : Bool :=
  tenantId = "admin" ∨ (rawToken.isSome ∧ rawToken = router.effectiveMasterKey env) ∨
    (env.hasDb ∧ tenantId ≠ "" ∧ tenantId ≠ "anonymous" ∧
      (db.users.get? tenantId).any fun user => user.tier = "admin" ∨ user.role = some "admin")

def handle (db : Database) (request : DashboardRequest)
    (auth : String → Except AuthError AuthenticatedContext) : Handled :=
  if request.method = "GET" ∧ request.pathname = "/api/auth/github/callback" then .githubCallback
  else if request.method = "POST" ∧ request.pathname = "/api/auth/sync-session" then .syncSession
  else
    match request.presented with
    | .error () => .failed
    | .ok rawToken =>
      match router.resolveTenant env request rawToken auth with
      | none => .unauthorized
      | some tenantId =>
        let route := dashboardRoute request.method request.pathname
        if route = .admin ∧ ¬router.isAdmin env db rawToken tenantId then .forbidden
        else .route route tenantId

end DashboardRouter

end KeyCollective
