import KeyCollective.Auth.Jwt
import KeyCollective.Dashboard.AdminVerifier
import KeyCollective.SearchParams

/-!
# OAuth

The authorization URL, the exchange of a code for a token, the profile of a user and the login
made of them. What a provider answers to a request is a parameter, and a function returns the
requests it made, in order, beside its result.
-/

namespace KeyCollective.OAuth

open Jwt (Mac TokenPayload issueUserJWT)
open Sse (JsonParser units)

structure OAuthProviderConfig where
  provider : Option String := none
  clientId : String
  clientSecret : Option String := none
  tokenEndpoint : String
  authorizeEndpoint : Option String := none
  userInfoEndpoint : Option String := none
  redirectUri : Option String := none
  codeVerifier : Option String := none
  scopes : Option (List String) := none

structure AuthorizationUrlOptions where
  codeChallenge : Option String := none
  codeChallengeMethod : Option String := none
  scopes : Option (List String) := none
  nonce : Option String := none
  redirectUri : Option String := none
  additionalParams : List (String × String) := []

structure OAuthProviderPreset where
  provider : String
  authorizeEndpoint : String
  tokenEndpoint : String
  userInfoEndpoint : String
  defaultScopes : List String

def githubOAuthPreset : OAuthProviderPreset where
  provider := "github"
  authorizeEndpoint := "https://github.com/login/oauth/authorize"
  tokenEndpoint := "https://github.com/login/oauth/access_token"
  userInfoEndpoint := "https://api.github.com/user"
  defaultScopes := ["read:user", "user:email"]

def googleOAuthPreset : OAuthProviderPreset where
  provider := "google"
  authorizeEndpoint := "https://accounts.google.com/o/oauth2/v2/auth"
  tokenEndpoint := "https://oauth2.googleapis.com/token"
  userInfoEndpoint := "https://openidconnect.googleapis.com/v1/userinfo"
  defaultScopes := ["openid", "email", "profile"]

def knownProviders : List OAuthProviderPreset := [githubOAuthPreset, googleOAuthPreset]

structure OAuthUserProfile where
  id : String
  email : String
  username : String
  name : Option String
  avatarUrl : Option String
deriving DecidableEq

structure OAuthRequest where
  method : String
  url : String
  headers : List (String × String)
  body : Option String
deriving DecidableEq

structure OAuthResponse where
  status : Nat
  contentType : Option String
  body : Bytes

def OAuthResponse.ok (response : OAuthResponse) : Bool :=
  200 ≤ response.status ∧ response.status ≤ 299

/-- An answer, or the message of the error of the network. -/
abbrev Fetch := OAuthRequest → Except String OAuthResponse

inductive OAuthFailure where
  | missingAuthorizeEndpoint
  | clientIdForUrl
  | missingState
  /-- The endpoint is no URL. -/
  | invalidUrl
  | stateMismatch
  | invalidCode
  | missingTokenEndpoint
  | missingClientId
  | tokenNetwork (message : String)
  | unparsable (status : Nat)
  | rejected (status : Nat) (payload : Json)
  | providerError (payload : Json)
  | missingAccessToken (payload : Json)
  | missingUserEndpoint
  | invalidUserEndpoint
  | invalidToken
  | profileNetwork (message : String)
  | profileStatus (status : Nat)
  | profilePayload
  | missingUserId
  | session (failure : Jwt.Failure)
  /-- A property of `null` is read. -/
  | typeError

/-! ## Texts of values -/

section

variable [NumberText]

mutual

/-- `String(value)`. -/
def display : Json → String
  | .null => "null"
  | .bool value => if value then "true" else "false"
  | .number n => n.text
  | .string s => s
  | .array items => ",".intercalate (displayItems items)
  | .object _ => "[object Object]"

def displayItems : List Json → List String
  | [] => []
  | .null :: rest => "" :: displayItems rest
  | item :: rest => display item :: displayItems rest

end

/-- A text that is there and not empty. -/
def given (text : Option String) : Option String := text.filter (· ≠ "")

def OAuthFailure.message : OAuthFailure → String
  | missingAuthorizeEndpoint => "Authorize endpoint is not configured for provider"
  | clientIdForUrl => "Client ID is required to build authorization URL"
  | missingState => "State parameter is required to build authorization URL"
  | invalidUrl => "Invalid URL string."
  | stateMismatch => "OAuth state verification failed: potential CSRF attack detected"
  | invalidCode => "Invalid authorization code: code must be non-empty"
  | missingTokenEndpoint => "Invalid OAuth configuration: tokenEndpoint is required"
  | missingClientId => "Invalid OAuth configuration: clientId is required"
  | tokenNetwork message => "OAuth token exchange failed due to network error: " ++ message
  | unparsable _ => "Failed to parse OAuth provider token response"
  | rejected status payload =>
    (((given (payload.getString "error_description")).or (given (payload.getString "error"))).or
      (given (payload.getString "message"))).getD s!"OAuth token exchange failed with HTTP {status}"
  | providerError payload =>
    "OAuth provider error: " ++ (payload.getString "error_description").getD
      (((payload.get "error").map display).getD "undefined")
  | missingAccessToken _ => "OAuth token exchange succeeded but missing access_token in response"
  | missingUserEndpoint => "User info endpoint is not configured for provider"
  | invalidUserEndpoint => "Invalid user endpoint: URL is required"
  | invalidToken => "Invalid access token: token must be non-empty"
  | profileNetwork message => "Failed to fetch user profile: " ++ message
  | profileStatus status => s!"User profile endpoint returned HTTP {status}"
  | profilePayload => "Failed to parse user profile JSON response"
  | missingUserId => "OAuth user profile is missing required identifier (id or sub)"
  | session failure => failure.message fun value => (value.map display).getD "undefined"
  | typeError => "Cannot read properties of null"

def OAuthFailure.reason : OAuthFailure → Option String
  | missingAuthorizeEndpoint => some "missing_authorize_endpoint"
  | clientIdForUrl | missingClientId => some "missing_client_id"
  | missingState => some "missing_state"
  | stateMismatch => some "state_mismatch"
  | invalidCode => some "invalid_code"
  | missingTokenEndpoint => some "missing_token_endpoint"
  | tokenNetwork _ => some "oauth_network_error"
  | unparsable _ => some "invalid_provider_response"
  | rejected _ payload => some ((payload.getString "error").getD "token_exchange_rejected")
  | providerError payload => some (((payload.get "error").map display).getD "undefined")
  | missingAccessToken _ => some "missing_access_token"
  | missingUserEndpoint => some "missing_user_endpoint"
  | invalidUserEndpoint => some "invalid_user_endpoint"
  | invalidToken => some "invalid_token"
  | profileNetwork _ => some "user_profile_network_error"
  | profileStatus _ => some "user_profile_fetch_failed"
  | profilePayload => some "invalid_user_profile_payload"
  | missingUserId => some "missing_user_id"
  | session failure => failure.reason
  | invalidUrl | typeError => none

end

/-! ## The authorization URL -/

/-- A URL that was read, and its parts from the query on. -/
structure UrlRecord where
  base : String
  query : Option String
  fragment : Option String

namespace UrlRecord

def href (url : UrlRecord) : String :=
  url.base ++ (url.query.elim "" ("?" ++ ·)) ++ (url.fragment.elim "" ("#" ++ ·))

def searchParams (url : UrlRecord) : SearchParams :=
  SearchParams.ofQuery ((url.query.getD "").toList)

/-- Without parameters there is no query. -/
def withParams (url : UrlRecord) (params : SearchParams) : UrlRecord :=
  { url with query := given (some params.toText) }

end UrlRecord

/-- `new URL(text)`; none is the `TypeError`. -/
class UrlParser where
  parse : String → Option UrlRecord

/-- What the URL asks for, over what the endpoint has in its own query. -/
def authorizationParams (config : OAuthProviderConfig) (state : String)
    (options : AuthorizationUrlOptions) (params : SearchParams) : SearchParams :=
  let scopes := (options.scopes.or config.scopes).filter (· ≠ [])
  let challenge := given options.codeChallenge
  let params := ((params.set "response_type" "code").set "client_id" config.clientId).set "state"
    state
  let params := params.setSome "redirect_uri" ((given options.redirectUri).or
    (given config.redirectUri))
  let params := params.setSome "scope" (scopes.map " ".intercalate)
  let params := (params.setSome "code_challenge" challenge).setSome "code_challenge_method"
    (challenge.map fun _ => (given options.codeChallengeMethod).getD "S256")
  let params := params.setSome "nonce" (given options.nonce)
  options.additionalParams.foldl (fun params param => params.set param.1 param.2) params

def authorizationUrl [UrlParser] (config : OAuthProviderConfig) (state : String)
    (options : AuthorizationUrlOptions) : Except OAuthFailure UrlRecord :=
  match given config.authorizeEndpoint with
  | none => .error .missingAuthorizeEndpoint
  | some authorizeEndpoint =>
    if config.clientId = "" then .error .clientIdForUrl
    else if isBlank state then .error .missingState
    else match UrlParser.parse authorizeEndpoint with
    | none => .error .invalidUrl
    | some url => .ok (url.withParams (authorizationParams config state options url.searchParams))

def buildAuthorizationUrl [UrlParser] (config : OAuthProviderConfig) (state : String)
    (options : AuthorizationUrlOptions) : Except OAuthFailure String :=
  (authorizationUrl config state options).map UrlRecord.href

/-- The error is the message of the `RangeError`. -/
def generateCodeChallenge (sha256 : Bytes → Bytes) (verifier : String) : Except String String :=
  if utf16Length verifier < 43 ∨ 128 < utf16Length verifier then
    .error s!"PKCE code verifier must be between 43 and 128 characters, got {utf16Length verifier}"
  else .ok (uint8ArrayToBase64Url (sha256 (stringToBytes verifier)))

/-! ## The exchange of the code -/

def tokenForm (config : OAuthProviderConfig) (code : String) : SearchParams :=
  let params : SearchParams := []
  let params := ((params.set "grant_type" "authorization_code").set "client_id"
    config.clientId).set "code" (trim code)
  ((params.setSome "client_secret" (given config.clientSecret)).setSome "redirect_uri"
    (given config.redirectUri)).setSome "code_verifier" (given config.codeVerifier)

def tokenRequest (config : OAuthProviderConfig) (code : String) : OAuthRequest where
  method := "POST"
  url := config.tokenEndpoint
  headers := [("Content-Type", "application/x-www-form-urlencoded"),
    ("Accept", "application/json"), ("User-Agent", "KeyCollective-OAuth/1.0")]
  body := some (tokenForm config code).toText

/-- A text in the form of a query, as an object. The last of a name counts. -/
def formPayload (text : String) : Json :=
  .object ((SearchParams.ofText text).foldl
    (fun fields param => Jwt.withField param.1 (.string param.2) fields) [])

section

variable [JsonParser]

/-- None is the error of a body that says it is JSON and is not. -/
def readPayload (response : OAuthResponse) : Option Json :=
  let text := decodeText response.body
  if includes (response.contentType.getD "") "application/json" then JsonParser.parse (units text)
  else some ((JsonParser.parse (units text)).getD (formPayload text))

def readToken (response : OAuthResponse) : Json → Except OAuthFailure String
  | .null => .error .typeError
  | payload =>
    if !response.ok then .error (.rejected response.status payload)
    else if Json.isTruthy (payload.get "error") then .error (.providerError payload)
    else
      let accessToken := ((payload.getString "access_token").map trim).getD ""
      if accessToken = "" then .error (.missingAccessToken payload) else .ok accessToken

variable (fetch : Fetch)

def exchangeCodeForToken (config : OAuthProviderConfig) (code : String) :
    Except OAuthFailure String × List OAuthRequest :=
  if isBlank code then (.error .invalidCode, [])
  else if config.tokenEndpoint = "" then (.error .missingTokenEndpoint, [])
  else if config.clientId = "" then (.error .missingClientId, [])
  else
    let request := tokenRequest config code
    match fetch request with
    | .error message => (.error (.tokenNetwork message), [request])
    | .ok response =>
      match readPayload response with
      | none => (.error (.unparsable response.status), [request])
      | some payload => (readToken response payload, [request])

/-! ## The user -/

/-- The first of the keys that is neither missing nor null. -/
def firstPresent (data : Json) : List String → Option Json
  | [] => none
  | key :: rest =>
    match data.get key with
    | none | some .null => firstPresent data rest
    | some value => some value

/-- A text that is not blank, trimmed. -/
def textAt (data : Json) (key : String) : Option String :=
  ((data.getString key).map trim).filter (· ≠ "")

def profileRequest (userEndpoint accessToken : String) : OAuthRequest where
  method := "GET"
  url := userEndpoint
  headers := [("Authorization", "Bearer " ++ trim accessToken), ("Accept", "application/json"),
    ("User-Agent", "KeyCollective-OAuth/1.0")]
  body := none

variable [NumberText]

def normalizeUserProfile (data : Json) : Except OAuthFailure OAuthUserProfile :=
  match data with
  | .null => .error .typeError
  | data =>
    let id := ((firstPresent data ["id", "sub", "login"]).map (trim ∘ display)).getD ""
    if id = "" then .error .missingUserId
    else
      let username := trim (((firstPresent data
        ["login", "username", "preferred_username", "email"]).map display).getD id)
      .ok
        { id, username
          email := trim (((firstPresent data ["email", "primary_email"]).map display).getD
            (username ++ "@oauth.local"))
          name := textAt data "name"
          avatarUrl := (textAt data "avatar_url").or (textAt data "picture") }

def fetchOAuthUserProfile (userEndpoint accessToken : String) :
    Except OAuthFailure OAuthUserProfile × List OAuthRequest :=
  if userEndpoint = "" then (.error .invalidUserEndpoint, [])
  else if isBlank accessToken then (.error .invalidToken, [])
  else
    let request := profileRequest userEndpoint accessToken
    match fetch request with
    | .error message => (.error (.profileNetwork message), [request])
    | .ok response =>
      if !response.ok then (.error (.profileStatus response.status), [request])
      else
        match JsonParser.parse (units (decodeText response.body)) with
        | none => (.error .profilePayload, [request])
        | some data => (normalizeUserProfile data, [request])

/-! ## The login -/

structure OAuthLoginOptions where
  code : String
  state : String
  expectedState : String
  jwtSecret : String
  jwtExpiresInSeconds : Option Number := none
  userEndpoint : Option String := none

structure OAuthLoginResult where
  accessToken : String
  user : OAuthUserProfile
  jwt : String
  tenantId : String

def buildOAuthTenantId [Host] (provider userId : String) : String :=
  "usr_" ++ trim (Host.toLowerCase ((given (some provider)).getD "oauth")) ++ "_" ++ trim userId

/-- The claims of the session. -/
def sessionPayload (user : OAuthUserProfile) (tenantId : String) : TokenPayload where
  fields := [("sub", .string user.id), ("tenantId", .string tenantId),
    ("email", .string user.email), ("username", .string user.username),
    ("tier", .string "builder")]
  iat value found := by simp [Json.get] at found
  exp value found := by simp [Json.get] at found

def handleOAuthLogin [Host] (mac : Mac) (config : OAuthProviderConfig)
    (options : OAuthLoginOptions) (now : Int) :
    Except OAuthFailure OAuthLoginResult × List OAuthRequest :=
  if options.state = "" ∨ options.expectedState = "" ∨
      !timingSafeEqualStrings options.state options.expectedState then (.error .stateMismatch, [])
  else
    match exchangeCodeForToken fetch config options.code with
    | (.error failure, sent) => (.error failure, sent)
    | (.ok accessToken, sent) =>
      match (given options.userEndpoint).or (given config.userInfoEndpoint) with
      | none => (.error .missingUserEndpoint, sent)
      | some endpoint =>
        match fetchOAuthUserProfile fetch endpoint accessToken with
        | (.error failure, next) => (.error failure, sent ++ next)
        | (.ok user, next) =>
          let tenantId := buildOAuthTenantId ((given config.provider).getD "oauth") user.id
          match issueUserJWT mac (sessionPayload user tenantId) options.jwtSecret
              (some (options.jwtExpiresInSeconds.getD (.finite 86400))) now with
          | .error failure => (.error (.session failure), sent ++ next)
          | .ok jwt => (.ok { accessToken, user, jwt, tenantId }, sent ++ next)

end

end KeyCollective.OAuth
