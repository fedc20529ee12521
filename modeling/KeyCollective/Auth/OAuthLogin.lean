import KeyCollective.Auth.OAuth
import KeyCollective.Proxy.Headers

/-!
# Logins

Nothing leaves for a provider before the state is checked. A login that succeeds made two
requests, the token the provider gave went into the second alone, and the session names the user
the provider described.
-/

namespace KeyCollective.OAuth

open Jwt (Mac)
open Upstream (TokenHost byteLower isToken)
open Sse (JsonParser units)

/-! ## Forms -/

section Forms

variable (config : OAuthProviderConfig) (code : String)

@[simp] theorem tokenForm_client :
    (tokenForm config code).get "client_id" = some config.clientId := by
  simp [tokenForm]

@[simp] theorem tokenForm_code : (tokenForm config code).get "code" = some (trim code) := by
  simp [tokenForm]

@[simp] theorem tokenForm_redirect :
    (tokenForm config code).get "redirect_uri" = given config.redirectUri := by
  simp [tokenForm]

@[simp] theorem tokenForm_verifier :
    (tokenForm config code).get "code_verifier" = given config.codeVerifier := by
  simp [tokenForm]

variable {config} {state : String} {options : AuthorizationUrlOptions} {params : SearchParams}

/-- Additional parameters that leave a name alone. -/
theorem get_foldl_set {name : String} {additional : List (String × String)}
    (apart : ∀ param ∈ additional, param.1 ≠ name) (params : SearchParams) :
    (additional.foldl (fun params param => params.set param.1 param.2) params).get name =
      params.get name := by
  induction additional generalizing params with
  | nil => rfl
  | cons param rest ih =>
    rw [List.foldl_cons, ih fun param mem => apart param (List.mem_cons_of_mem _ mem),
      SearchParams.get_set, if_neg (apart param List.mem_cons_self)]

/-- The parameters that the flow itself sets. -/
def reservedParams : List String :=
  ["response_type", "client_id", "state", "redirect_uri", "code_challenge", "code_challenge_method"]

/-- What the authorization URL says in the parameters of the flow. -/
structure Asks (config : OAuthProviderConfig) (state : String) (options : AuthorizationUrlOptions)
    (params : SearchParams) : Prop where
  responseType : params.get "response_type" = some "code"
  client : params.get "client_id" = some config.clientId
  state : params.get "state" = some state
  redirect : ∀ uri, (given options.redirectUri).or (given config.redirectUri) = some uri →
    params.get "redirect_uri" = some uri
  challenge : ∀ challenge, given options.codeChallenge = some challenge →
    params.get "code_challenge" = some challenge ∧
      params.get "code_challenge_method" =
        some ((given options.codeChallengeMethod).getD "S256")

theorem authorizationParams_asks
    (apart : ∀ param ∈ options.additionalParams, param.1 ∉ reservedParams) :
    Asks config state options (authorizationParams config state options params) := by
  have own {name : String} (mem : name ∈ reservedParams) :
      ∀ param ∈ options.additionalParams, param.1 ≠ name := by
    rintro param within rfl
    exact apart param within mem
  constructor
  · simp [authorizationParams, get_foldl_set (own (by decide : "response_type" ∈ reservedParams))]
  · simp [authorizationParams, get_foldl_set (own (by decide : "client_id" ∈ reservedParams))]
  · simp [authorizationParams, get_foldl_set (own (by decide : "state" ∈ reservedParams))]
  · intro uri asked
    simp [authorizationParams, get_foldl_set (own (by decide : "redirect_uri" ∈ reservedParams)),
      asked]
  · intro challenge asked
    constructor
    · simp [authorizationParams,
        get_foldl_set (own (by decide : "code_challenge" ∈ reservedParams)), asked]
    · simp [authorizationParams,
        get_foldl_set (own (by decide : "code_challenge_method" ∈ reservedParams)), asked]

theorem authorizationUrl_ok [UrlParser] {url : UrlRecord}
    (built : authorizationUrl config state options = .ok url) :
    isBlank state = false ∧ ∃ base : UrlRecord, url = base.withParams
      (authorizationParams config state options base.searchParams) := by
  unfold authorizationUrl at built
  split at built
  · cases built
  · split_ifs at built with client blank
    split at built
    · cases built
    · rename_i base parsed
      exact ⟨Bool.eq_false_iff.mpr blank, base, (Except.ok.inj built).symm⟩

theorem searchParams_withParams (base : UrlRecord) (params : SearchParams) :
    (base.withParams params).searchParams = params := by
  unfold UrlRecord.searchParams UrlRecord.withParams
  by_cases empty : params.toText = ""
  · have none : given (some params.toText) = none := by simp [given, empty]
    have read := SearchParams.ofQuery_toText params
    rw [empty] at read
    rw [none]
    exact read
  · have some : given (some params.toText) = some params.toText := by simp [given, empty]
    rw [some]
    exact SearchParams.ofQuery_toText params

theorem uint8ArrayToBase64Url_ne {bytes : Bytes} (some : bytes ≠ []) :
    uint8ArrayToBase64Url bytes ≠ "" := by
  intro empty
  have read := base64UrlToUint8Array_uint8ArrayToBase64Url bytes
  rw [empty] at read
  exact some (Option.some.inj read).symm

/-- What a provider checks of the two parts of a flow: the form that comes with the code is of the
client that asked for it, and its verifier is the one that was challenged. -/
structure Agree (sha256 : Bytes → Bytes) (state code : String) (asked form : SearchParams) :
    Prop where
  responseType : asked.get "response_type" = some "code"
  state : asked.get "state" = some state
  client : form.get "client_id" = asked.get "client_id"
  code : form.get "code" = some (trim code)
  challenge : ∃ verifier, form.get "code_verifier" = some verifier ∧
    asked.get "code_challenge" = some (uint8ArrayToBase64Url (sha256 (stringToBytes verifier)))

/-- The query of the authorization URL and the form of the token request, as the provider reads
them, agree, whatever characters are in them and whatever query the endpoint has of its own. -/
theorem authorization_agrees [UrlParser] (sha256 : Bytes → Bytes)
    (digest : ∀ bytes, (sha256 bytes).length = 32) (config : OAuthProviderConfig)
    (state : String) (options : AuthorizationUrlOptions) (url : UrlRecord)
    (verifier challenge : String) (built : authorizationUrl config state options = .ok url)
    (apart : ∀ param ∈ options.additionalParams, param.1 ∉ reservedParams)
    (kept : config.codeVerifier = some verifier)
    (made : generateCodeChallenge sha256 verifier = .ok challenge)
    (sent : options.codeChallenge = some challenge) (code : String) :
    Agree sha256 state code url.searchParams
        (SearchParams.ofText ((tokenRequest config code).body.getD "")) ∧
      (given options.redirectUri = none → ∀ uri, given config.redirectUri = some uri →
        url.searchParams.get "redirect_uri" = some uri ∧
          (SearchParams.ofText ((tokenRequest config code).body.getD "")).get "redirect_uri" =
            some uri) := by
  obtain ⟨-, base, rfl⟩ := authorizationUrl_ok built
  have asks : Asks config state options
      (authorizationParams config state options base.searchParams) :=
    authorizationParams_asks apart
  have form : SearchParams.ofText ((tokenRequest config code).body.getD "") =
      tokenForm config code := SearchParams.ofText_toText _
  rw [searchParams_withParams, form]
  unfold generateCodeChallenge at made
  split_ifs at made with length
  obtain rfl := Except.ok.inj made
  have named : verifier ≠ "" := by
    rintro rfl
    exact length (Or.inl (by decide))
  have written : uint8ArrayToBase64Url (sha256 (stringToBytes verifier)) ≠ "" := by
    apply uint8ArrayToBase64Url_ne
    apply List.ne_nil_of_length_pos
    rw [digest]
    decide
  have challenged := asks.challenge _
    (by rw [sent, given, Option.filter_some, if_pos (decide_eq_true written)])
  refine ⟨⟨asks.responseType, asks.state, ?_, tokenForm_code config code, verifier, ?_,
    challenged.1⟩, ?_⟩
  · rw [tokenForm_client, asks.client]
  · rw [tokenForm_verifier, kept, given, Option.filter_some, if_pos (decide_eq_true named)]
  · intro own uri configured
    refine ⟨asks.redirect uri ?_, ?_⟩
    · rw [own, Option.none_or, configured]
    · rw [tokenForm_redirect, configured]

end Forms

/-! ## What was asked and answered -/

section Login

variable [JsonParser] {fetch : Fetch} {config : OAuthProviderConfig}

/-- The provider gave the token for the code. -/
structure Exchanged (fetch : Fetch) (config : OAuthProviderConfig) (code accessToken : String) :
    Prop where
  asked : isBlank code = false
  named : accessToken ≠ ""
  trimmed : trim accessToken = accessToken
  answer : ∃ response payload raw, fetch (tokenRequest config code) = .ok response ∧
    response.ok = true ∧ readPayload response = some payload ∧
      Json.isTruthy (payload.get "error") = false ∧
        payload.getString "access_token" = some raw ∧ accessToken = trim raw

omit [JsonParser] in
theorem readToken_ok {response : OAuthResponse} {payload : Json} {accessToken : String}
    (read : readToken response payload = .ok accessToken) :
    response.ok = true ∧ Json.isTruthy (payload.get "error") = false ∧ accessToken ≠ "" ∧
      ∃ raw, payload.getString "access_token" = some raw ∧ accessToken = trim raw := by
  unfold readToken at read
  split at read
  · cases read
  · split_ifs at read with refused failed
    dsimp only at read
    split_ifs at read with missing
    obtain rfl := Except.ok.inj read
    refine ⟨by simpa using refused, Bool.eq_false_iff.mpr failed, missing, ?_⟩
    cases found : payload.getString "access_token" with
    | none =>
      rw [found] at missing
      exact absurd rfl missing
    | some raw => exact ⟨raw, rfl, rfl⟩

theorem exchangeCodeForToken_ok {code accessToken : String} {sent : List OAuthRequest}
    (done : exchangeCodeForToken fetch config code = (.ok accessToken, sent)) :
    sent = [tokenRequest config code] ∧ Exchanged fetch config code accessToken := by
  unfold exchangeCodeForToken at done
  split_ifs at done with blank endpoint client
  · cases done
  · cases done
  · cases done
  · dsimp only at done
    cases answered : fetch (tokenRequest config code) with
    | error message =>
      rw [answered] at done
      cases done
    | ok response =>
      rw [answered] at done
      dsimp only at done
      cases parsed : readPayload response with
      | none =>
        rw [parsed] at done
        cases done
      | some payload =>
        rw [parsed] at done
        obtain ⟨read, rfl⟩ := Prod.mk.inj done
        obtain ⟨accepted, clean, named, raw, found, rfl⟩ := readToken_ok read
        exact ⟨rfl, Bool.eq_false_iff.mpr blank, named, trim_trim raw, response, payload, raw,
          answered, accepted, parsed, clean, found, rfl⟩

theorem exchangeCodeForToken_sent (fetch : Fetch) (config : OAuthProviderConfig) (code : String) :
    (exchangeCodeForToken fetch config code).2 = [] ∨
      (exchangeCodeForToken fetch config code).2 = [tokenRequest config code] := by
  unfold exchangeCodeForToken
  split_ifs
  · exact Or.inl rfl
  · exact Or.inl rfl
  · exact Or.inl rfl
  · dsimp only
    split
    · exact Or.inr rfl
    · split <;> exact Or.inr rfl

variable [NumberText]

omit [JsonParser] in
theorem normalizeUserProfile_ok {data : Json} {user : OAuthUserProfile}
    (normalized : normalizeUserProfile data = .ok user) :
    user.id ≠ "" ∧ trim user.id = user.id := by
  unfold normalizeUserProfile at normalized
  split at normalized
  · cases normalized
  · dsimp only at normalized
    split_ifs at normalized with missing
    obtain rfl := Except.ok.inj normalized
    refine ⟨missing, ?_⟩
    generalize firstPresent data ["id", "sub", "login"] = found at missing ⊢
    cases found with
    | none => exact absurd rfl missing
    | some value => exact trim_trim (display value)

/-- The endpoint described the user to the bearer of the token. -/
structure Described (fetch : Fetch) (endpoint accessToken : String) (user : OAuthUserProfile) :
    Prop where
  identified : user.id ≠ ""
  trimmed : trim user.id = user.id
  answer : ∃ response data, fetch (profileRequest endpoint accessToken) = .ok response ∧
    response.ok = true ∧ JsonParser.parse (units (decodeText response.body)) = some data ∧
      normalizeUserProfile data = .ok user

theorem fetchOAuthUserProfile_ok {endpoint accessToken : String} {user : OAuthUserProfile}
    {sent : List OAuthRequest}
    (done : fetchOAuthUserProfile fetch endpoint accessToken = (.ok user, sent)) :
    sent = [profileRequest endpoint accessToken] ∧ Described fetch endpoint accessToken user := by
  unfold fetchOAuthUserProfile at done
  split_ifs at done
  · cases done
  · cases done
  · dsimp only at done
    cases answered : fetch (profileRequest endpoint accessToken) with
    | error message =>
      rw [answered] at done
      cases done
    | ok response =>
      rw [answered] at done
      dsimp only at done
      split_ifs at done with refused
      · cases done
      · cases parsed : JsonParser.parse (units (decodeText response.body)) with
        | none =>
          rw [parsed] at done
          cases done
        | some data =>
          rw [parsed] at done
          obtain ⟨normalized, rfl⟩ := Prod.mk.inj done
          obtain ⟨identified, trimmed⟩ := normalizeUserProfile_ok normalized
          exact ⟨rfl, identified, trimmed, response, data, answered, by simpa using refused,
            parsed, normalized⟩

theorem fetchOAuthUserProfile_sent (fetch : Fetch) (endpoint accessToken : String) :
    (fetchOAuthUserProfile fetch endpoint accessToken).2 = [] ∨
      (fetchOAuthUserProfile fetch endpoint accessToken).2 =
        [profileRequest endpoint accessToken] := by
  unfold fetchOAuthUserProfile
  split_ifs
  · exact Or.inl rfl
  · exact Or.inl rfl
  · dsimp only
    split
    · exact Or.inr rfl
    · split_ifs
      · exact Or.inr rfl
      · split <;> exact Or.inr rfl

end Login

/-! ## Logins -/

section Session

variable [Host] [JsonParser] [NumberText] {fetch : Fetch} {mac : Mac}
  {config : OAuthProviderConfig} {options : OAuthLoginOptions} {now : Int}

/-- The state that came back is the one that was given out. -/
def Returned (options : OAuthLoginOptions) : Prop :=
  options.state = options.expectedState ∧ options.state ≠ ""

def OAuthLoginOptions.endpoint (options : OAuthLoginOptions) (config : OAuthProviderConfig) :
    Option String :=
  (given options.userEndpoint).or (given config.userInfoEndpoint)

/-- The requests of a login, as far as it came. -/
inductive Requests (fetch : Fetch) (config : OAuthProviderConfig) (options : OAuthLoginOptions) :
    List OAuthRequest → Prop where
  | none : Requests fetch config options []
  | token : Returned options → Requests fetch config options [tokenRequest config options.code]
  | profile {accessToken endpoint : String} : Returned options →
    Exchanged fetch config options.code accessToken → options.endpoint config = some endpoint →
      Requests fetch config options
        [tokenRequest config options.code, profileRequest endpoint accessToken]

/-- How long the session is. -/
def OAuthLoginOptions.lifetime (options : OAuthLoginOptions) : Option Number :=
  some (options.jwtExpiresInSeconds.getD (.finite 86400))

structure LoggedIn (fetch : Fetch) (mac : Mac) (config : OAuthProviderConfig)
    (options : OAuthLoginOptions) (now : Int) (result : OAuthLoginResult) : Prop where
  returned : Returned options
  exchanged : Exchanged fetch config options.code result.accessToken
  described : ∃ endpoint, options.endpoint config = some endpoint ∧
    Described fetch endpoint result.accessToken result.user
  tenant : result.tenantId =
    buildOAuthTenantId ((given config.provider).getD "oauth") result.user.id
  issued : Jwt.issueUserJWT mac (sessionPayload result.user result.tenantId) options.jwtSecret
    options.lifetime now = .ok result.jwt

theorem handleOAuthLogin_cases :
    Requests fetch config options (handleOAuthLogin fetch mac config options now).2 ∧
      ∀ result, (handleOAuthLogin fetch mac config options now).1 = .ok result →
        LoggedIn fetch mac config options now result := by
  unfold handleOAuthLogin
  by_cases refused : options.state = "" ∨ options.expectedState = "" ∨
      (!timingSafeEqualStrings options.state options.expectedState) = true
  · rw [if_pos refused]
    exact ⟨.none, nofun⟩
  rw [if_neg refused]
  simp only [not_or, Bool.not_eq_true', Bool.not_eq_false, timingSafeEqualStrings_iff] at refused
  obtain ⟨named, -, same⟩ := refused
  have returned : Returned options := ⟨same, named⟩
  cases exchange : exchangeCodeForToken fetch config options.code with
  | mk outcome sent =>
    cases outcome with
    | error failure =>
      refine ⟨?_, nofun⟩
      have begun := exchangeCodeForToken_sent fetch config options.code
      rw [exchange] at begun
      rcases begun with rfl | rfl
      · exact .none
      · exact .token returned
    | ok accessToken =>
      obtain ⟨rfl, exchanged⟩ := exchangeCodeForToken_ok exchange
      cases resolved : (given options.userEndpoint).or (given config.userInfoEndpoint) with
      | none => exact ⟨.token returned, nofun⟩
      | some endpoint =>
        dsimp only
        cases profile : fetchOAuthUserProfile fetch endpoint accessToken with
        | mk outcome next =>
          have begun := fetchOAuthUserProfile_sent fetch endpoint accessToken
          rw [profile] at begun
          have requests : Requests fetch config options
              ([tokenRequest config options.code] ++ next) := by
            rcases begun with rfl | rfl
            · exact .token returned
            · exact .profile returned exchanged resolved
          cases outcome with
          | error failure => exact ⟨requests, nofun⟩
          | ok user =>
            obtain ⟨-, described⟩ := fetchOAuthUserProfile_ok profile
            dsimp only
            split
            · exact ⟨requests, nofun⟩
            · rename_i jwt issued
              refine ⟨requests, ?_⟩
              intro result done
              obtain rfl := Except.ok.inj done
              exact ⟨returned, exchanged, ⟨endpoint, resolved, described⟩, rfl, issued⟩

/-- The session of a login is accepted until it expires, with the user and the tenant of the
login. -/
structure Opens (mac : Mac) (options : OAuthLoginOptions) (now : Int) (result : OAuthLoginResult)
    (claims : Json) : Prop where
  subject : claims.getString "sub" = some result.user.id
  tenant : claims.getString "tenantId" = some result.tenantId
  accepted : ∀ later : Int,
    ((sessionPayload result.user result.tenantId).expiry options.lifetime now).above
      ((later : ℚ) / 1000) →
        Jwt.verifyUserJWT mac result.jwt options.jwtSecret later = .ok claims

theorem LoggedIn.opens (header : Jwt.Representable Jwt.jwtHeader) {result : OAuthLoginResult}
    (loggedIn : LoggedIn fetch mac config options now result)
    (representable : Jwt.Representable
      ((sessionPayload result.user result.tenantId).fullPayload options.lifetime now)) :
    ∃ claims, Opens mac options now result claims := by
  have carries := Jwt.fullPayload_carries (sessionPayload result.user result.tenantId)
    options.lifetime now
  have claim (key : String) (iat : key ≠ "iat") (exp : key ≠ "exp") (iss : key ≠ "iss") :
      Json.getString ((sessionPayload result.user result.tenantId).fullPayload options.lifetime now)
        key = (Json.object (sessionPayload result.user result.tenantId).fields).getString key := by
    rw [Json.getString, carries.others key iat exp iss, Json.getString]
  refine ⟨(sessionPayload result.user result.tenantId).fullPayload options.lifetime now, ?_, ?_, ?_⟩
  · rw [claim "sub" (by decide) (by decide) (by decide)]
    simp [sessionPayload, Json.getString, Json.get]
  · rw [claim "tenantId" (by decide) (by decide) (by decide)]
    simp [sessionPayload, Json.getString, Json.get]
  · intro later early
    refine Jwt.verify_issued mac header loggedIn.issued representable ?_
    intro exp found
    simp only [Json.getNumber, carries.exp, Option.some.injEq] at found
    rw [← found]
    exact Jwt.not_atMost_of_above early

/-- Whatever the provider answers, nothing is sent unless the state came back, the code goes to
the token endpoint alone and the token of the answer to the user's endpoint alone. A login that
succeeds is of the user who was described, and its session opens to that user and tenant. -/
theorem login_sound (header : Jwt.Representable Jwt.jwtHeader) (fetch : Fetch) (mac : Mac)
    (config : OAuthProviderConfig) (options : OAuthLoginOptions) (now : Int) :
    Requests fetch config options (handleOAuthLogin fetch mac config options now).2 ∧
      ∀ result, (handleOAuthLogin fetch mac config options now).1 = .ok result →
        LoggedIn fetch mac config options now result ∧
          (Jwt.Representable
              ((sessionPayload result.user result.tenantId).fullPayload options.lifetime now) →
            ∃ claims, Opens mac options now result claims) := by
  refine ⟨handleOAuthLogin_cases.1, ?_⟩
  intro result done
  have loggedIn := handleOAuthLogin_cases.2 result done
  exact ⟨loggedIn, loggedIn.opens header⟩

/-! ## Tenants -/

omit [JsonParser] [NumberText] in
/-- Providers without an underscore do not share tenants. -/
theorem buildOAuthTenantId_inj {provider other : String}
    (plain : '_' ∉ (trim (Host.toLowerCase ((given (some provider)).getD "oauth"))).toList)
    (plain' : '_' ∉ (trim (Host.toLowerCase ((given (some other)).getD "oauth"))).toList)
    (userId otherId : String) :
    buildOAuthTenantId provider userId = buildOAuthTenantId other otherId ↔
      trim (Host.toLowerCase ((given (some provider)).getD "oauth")) =
          trim (Host.toLowerCase ((given (some other)).getD "oauth")) ∧
        trim userId = trim otherId := by
  unfold buildOAuthTenantId
  generalize trim (Host.toLowerCase ((given (some provider)).getD "oauth")) = p at plain ⊢
  generalize trim (Host.toLowerCase ((given (some other)).getD "oauth")) = q at plain' ⊢
  constructor
  · intro same
    have chars := congrArg String.toList same
    simp only [String.toList_append, List.append_assoc] at chars
    have behind : p.toList ++ '_' :: (trim userId).toList =
        q.toList ++ '_' :: (trim otherId).toList := List.append_cancel_left chars
    have parts := congrArg (List.splitOn '_') behind
    rw [List.splitOn_append_cons_self_of_not_mem plain,
      List.splitOn_append_cons_self_of_not_mem plain'] at parts
    have first : p.toList = q.toList := (List.cons.inj parts).1
    rw [first] at behind
    have rest := List.append_cancel_left behind
    exact ⟨String.toList_injective first, String.toList_injective (List.cons.inj rest).2⟩
  · rintro ⟨rfl, same⟩
    rw [same]

omit [JsonParser] [NumberText] in
theorem known_provider [TokenHost] {provider : String}
    (known : ∃ preset ∈ knownProviders, preset.provider = provider) :
    given (some provider) = some provider ∧
      trim (Host.toLowerCase ((given (some provider)).getD "oauth")) = provider ∧
        '_' ∉ provider.toList := by
  obtain ⟨preset, mem, rfl⟩ := known
  have all : ∀ preset ∈ knownProviders, isToken preset.provider = true ∧
      given (some preset.provider) = some preset.provider ∧
        trim (byteLower preset.provider) = preset.provider ∧ '_' ∉ preset.provider.toList := by
    decide
  obtain ⟨token, named, lower, plain⟩ := all preset mem
  refine ⟨named, ?_, plain⟩
  rw [named, Option.getD_some, TokenHost.lower_token _ token, lower]

end Session

section Tenants

variable [Host] [TokenHost] [JsonParser] [NumberText]

/-- Two logins at the known providers have one tenant exactly when they are of one user at one
provider, whatever the providers answered in between. -/
theorem logins_separate (fetch fetch' : Fetch) (mac : Mac) (config config' : OAuthProviderConfig)
    (options options' : OAuthLoginOptions) (now now' : Int) (result result' : OAuthLoginResult)
    (done : (handleOAuthLogin fetch mac config options now).1 = .ok result)
    (done' : (handleOAuthLogin fetch' mac config' options' now').1 = .ok result')
    (provider provider' : String) (named : config.provider = some provider)
    (named' : config'.provider = some provider')
    (known : ∃ preset ∈ knownProviders, preset.provider = provider)
    (known' : ∃ preset ∈ knownProviders, preset.provider = provider') :
    result.tenantId = result'.tenantId ↔
      provider = provider' ∧ result.user.id = result'.user.id := by
  have loggedIn := handleOAuthLogin_cases.2 result done
  have loggedIn' := handleOAuthLogin_cases.2 result' done'
  obtain ⟨endpoint, -, described⟩ := loggedIn.described
  obtain ⟨endpoint', -, described'⟩ := loggedIn'.described
  obtain ⟨given, clean, plain⟩ := known_provider known
  obtain ⟨given', clean', plain'⟩ := known_provider known'
  rw [loggedIn.tenant, loggedIn'.tenant, named, named', given, given', Option.getD_some,
    Option.getD_some, buildOAuthTenantId_inj (clean.symm ▸ plain) (clean'.symm ▸ plain'), clean,
    clean', described.trimmed, described'.trimmed]

end Tenants

section Examples

attribute [local instance] asciiHost integerText

def github : OAuthProviderConfig where
  provider := some "github"
  clientId := "kc"
  tokenEndpoint := githubOAuthPreset.tokenEndpoint
  authorizeEndpoint := some githubOAuthPreset.authorizeEndpoint
  userInfoEndpoint := some githubOAuthPreset.userInfoEndpoint
  redirectUri := some "https://kc.dev/cb?a=1&b=ü"
  codeVerifier := some (String.ofList (List.replicate 43 'v'))

def adaOptions : OAuthLoginOptions where
  code := " c0de "
  state := "s"
  expectedState := "s"
  jwtSecret := "secret"

def adaText : String := "ada"

def ada : OAuthUserProfile where
  id := "7"
  email := "ada@oauth.local"
  username := "ada"
  name := none
  avatarUrl := none

/-- The token comes as a form. -/
def githubFetch : Fetch := fun request =>
  if request.method = "POST" then
    .ok { status := 200, contentType := none, body := stringToBytes "access_token=gho_1&scope=" }
  else .ok { status := 200, contentType := none, body := stringToBytes adaText }

def adaSession : Json :=
  (sessionPayload ada "usr_github_7").fullPayload adaOptions.lifetime 0

@[reducible] def adaJson : JsonParser where
  parse text :=
    if text = units adaText then
      some (.object [("id", .number (.finite 7)), ("login", .string "ada")])
    else if text = Jwt.jwtHeader.stringify.flatMap Sse.utf16 then some Jwt.jwtHeader
    else if text = adaSession.stringify.flatMap Sse.utf16 then some adaSession
    else none

attribute [local instance] adaJson

theorem adaHeader_representable : Jwt.Representable Jwt.jwtHeader := by
  have header : Jwt.jwtHeader.stringify.flatMap Sse.utf16 ≠ units adaText := by
    decide
  rw [Jwt.Representable, units, String.toList_ofList]
  exact (if_neg header).trans (if_pos rfl)

theorem adaSession_representable : Jwt.Representable adaSession := by
  have session : adaSession.stringify.flatMap Sse.utf16 ≠ units adaText ∧
      adaSession.stringify.flatMap Sse.utf16 ≠ Jwt.jwtHeader.stringify.flatMap Sse.utf16 := by
    decide
  rw [Jwt.Representable, units, String.toList_ofList]
  exact (if_neg session.1).trans ((if_neg session.2).trans (if_pos rfl))

def adaLogin : Except OAuthFailure OAuthLoginResult × List OAuthRequest :=
  handleOAuthLogin githubFetch Jwt.plainMac github adaOptions 0

theorem adaLogin_ok : ∃ result, adaLogin.1 = .ok result ∧ result.user = ada ∧
    result.tenantId = "usr_github_7" := by
  have logged : adaLogin.1.toOption.any (fun result =>
      result.user = ada ∧ result.tenantId = "usr_github_7") = true := by
    decide
  cases login : adaLogin.1 with
  | error failure =>
    rw [login] at logged
    cases logged
  | ok result =>
    rw [login] at logged
    exact ⟨result, rfl, of_decide_eq_true logged⟩

theorem login_sound_ada : ∃ result claims, adaLogin.1 = .ok result ∧
    LoggedIn githubFetch Jwt.plainMac github adaOptions 0 result ∧
      Opens Jwt.plainMac adaOptions 0 result claims := by
  obtain ⟨result, done, user, tenant⟩ := adaLogin_ok
  obtain ⟨loggedIn, opens⟩ := (login_sound adaHeader_representable githubFetch Jwt.plainMac github
    adaOptions 0).2 result done
  rw [user, tenant] at opens
  obtain ⟨claims, opened⟩ := opens adaSession_representable
  exact ⟨result, claims, done, loggedIn, opened⟩

def google : OAuthProviderConfig where
  provider := some "google"
  clientId := "kc"
  tokenEndpoint := googleOAuthPreset.tokenEndpoint
  userInfoEndpoint := some googleOAuthPreset.userInfoEndpoint
  redirectUri := some "https://kc.dev/cb"

/-- The other provider answers the same, and the id is another user's there. -/
def googleLogin : Except OAuthFailure OAuthLoginResult × List OAuthRequest :=
  handleOAuthLogin githubFetch Jwt.plainMac google adaOptions 0

theorem googleLogin_ok : ∃ result, googleLogin.1 = .ok result ∧ result.user.id = "7" := by
  have logged : googleLogin.1.toOption.any (fun result => result.user.id = "7") = true := by
    decide
  cases login : googleLogin.1 with
  | error failure =>
    rw [login] at logged
    cases logged
  | ok result =>
    rw [login] at logged
    exact ⟨result, rfl, of_decide_eq_true logged⟩

theorem logins_separate_ada : ∃ result result', adaLogin.1 = .ok result ∧
    googleLogin.1 = .ok result' ∧ result.user.id = result'.user.id ∧
      result.tenantId ≠ result'.tenantId := by
  have := Upstream.token_ascii
  obtain ⟨result, done, user, -⟩ := adaLogin_ok
  obtain ⟨result', done', id⟩ := googleLogin_ok
  have known : ∃ preset ∈ knownProviders, preset.provider = "github" :=
    ⟨githubOAuthPreset, List.mem_cons_self, rfl⟩
  have known' : ∃ preset ∈ knownProviders, preset.provider = "google" :=
    ⟨googleOAuthPreset, List.mem_cons_of_mem _ List.mem_cons_self, rfl⟩
  have separate := logins_separate githubFetch githubFetch Jwt.plainMac github google adaOptions
    adaOptions 0 0 result result' done done' "github" "google" rfl rfl known known'
  refine ⟨result, result', done, done', by rw [user, id, ada], fun same => ?_⟩
  exact absurd (separate.mp same).1 (by decide)

/-- The endpoint has neither a query nor a fragment. -/
@[reducible] def plainUrls : UrlParser where
  parse text := some { base := text, query := none, fragment := none }

attribute [local instance] plainUrls

/-- The digest of the verifier. -/
def vDigest (bytes : Bytes) : Bytes :=
  if bytes = List.replicate 43 0x76 then
    [0xEF, 0x0F, 0xD8, 0x34, 0x5F, 0x43, 0x49, 0xF2, 0x1D, 0x3D, 0xFF, 0xE9, 0x46, 0x34, 0xAA,
    0xEB, 0x8E, 0xBF, 0x90, 0xFA, 0xFE, 0xDB, 0xEA, 0x3D, 0x34, 0x09, 0x75, 0xE8, 0x91, 0xA0,
    0x85, 0xD3]
  else List.replicate 32 0

def challenged : AuthorizationUrlOptions where
  codeChallenge := some "7w_YNF9DSfIdPf_pRjSq646_kPr-2-o9NAl16JGghdM"
  additionalParams := [("prompt", "select account")]

theorem authorization_agrees_github : ∃ url,
    authorizationUrl github "st&te" challenged = .ok url ∧
      Agree vDigest "st&te" "c0de" url.searchParams
        (SearchParams.ofText ((tokenRequest github "c0de").body.getD "")) := by
  have digest (bytes : Bytes) : (vDigest bytes).length = 32 := by
    unfold vDigest
    split <;> rfl
  have made : generateCodeChallenge vDigest (String.ofList (List.replicate 43 'v')) =
      .ok "7w_YNF9DSfIdPf_pRjSq646_kPr-2-o9NAl16JGghdM" := by
    have long : utf16Length (String.ofList (List.replicate 43 'v')) = 43 := by
      rw [utf16Length, String.toList_ofList]
      decide
    have bytes : stringToBytes (String.ofList (List.replicate 43 'v')) = List.replicate 43 0x76 := by
      rw [stringToBytes, String.toList_ofList]
      decide
    rw [generateCodeChallenge, long, if_neg (by decide), bytes, vDigest, if_pos rfl,
      uint8ArrayToBase64Url, uint8ArrayToBase64, String.toList_ofList]
    exact congrArg (fun cs => Except.ok (String.ofList cs)) (by decide)
  exact ⟨_, rfl, (authorization_agrees vDigest digest github "st&te" challenged _ _ _ rfl
    (by decide) rfl made rfl "c0de").1⟩

end Examples

end KeyCollective.OAuth
