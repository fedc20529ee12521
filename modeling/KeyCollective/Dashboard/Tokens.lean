import KeyCollective.Dashboard.Handler

/-!
# The routes that hand out tokens

A login through GitHub and the sync of a session each store a user and a token of theirs;
the token route stores one for the tenant it is run for, or for another when that tenant is
the administrator. A token that could not be stored is handed out by the first two all the
same.
-/

namespace KeyCollective

/-- What the host makes up for a new token. -/
structure TokenEntropy where
  /-- Random hexadecimal digits. -/
  random : String
  tokenId : String

/-- A token handed out, if any, and the database after the request. -/
structure Issued where
  token : Option String
  db : Database

/-- No token, and nothing stored. -/
def Issued.refused (db : Database) : Issued := ⟨none, db⟩

section Sessions

variable [Edge]

/-- The rows both session routes store, one after the other; an error leaves the rest out. -/
def storeSession (env : WorkerEnv) (db : Database) (user : UserRow) (record : AuthTokenRecord) :
    Database :=
  if !env.hasDb then db
  else
    match db.users.upsertSession user with
    | none => db
    | some users =>
      match db.authTokens.insert record with
      | none => { db with users }
      | some authTokens => { users, authTokens }

def sessionToken (tier : String) (entropy : TokenEntropy) : String :=
  "kc_" ++ tier ++ "_" ++ entropy.random

def sessionRecord (tenantId tier : String) (rpmLimit budget : Int) (entropy : TokenEntropy) :
    AuthTokenRecord where
  id := entropy.tokenId
  hashSha256 := Edge.hashToken (sessionToken tier entropy)
  tenantId
  budgetMicrodollars := budget
  spentMicrodollars := 0
  allowedProviders := []
  rpmLimit
  expiresAt := none

/-- `body.tier?.trim() || …`, and no session escalates itself to a privileged tier. -/
def sessionTier (body : SyncSessionBody) : String :=
  let tier := ((body.tier.map trim).filter (· ≠ "")).getD
    (if body.authProvider = some "google" then "builder"
     else if body.authProvider = some "github" then "max" else "demo")
  let authProvider := ((body.authProvider.map trim).filter (· ≠ "")).getD "github"
  if (tier = "admin" ∨ tier = "ultra") ∧ authProvider ≠ "internal" then "max" else tier

def sessionUser (tenantId : String) (body : SyncSessionBody) : UserRow :=
  let tier := sessionTier body
  { id := tenantId
    email := some (((body.email.map trim).filter (· ≠ "")).getD
      (tenantId ++ "@users.noreply.kc"))
    tier
    role := some "user"
    sybilScore := if tier = "probationary" then 35 else if tier = "demo" then 20 else 95 }

/-- The id a session is synced for. -/
def SyncSessionBody.tenantId (body : SyncSessionBody) : Option String :=
  (body.id.map trim).filter (· ≠ "")

def syncedRecord (tenantId : String) (body : SyncSessionBody) (entropy : TokenEntropy) :
    AuthTokenRecord :=
  let tier := sessionTier body
  sessionRecord tenantId tier
    (if tier = "admin" ∨ tier = "ultra" then 1000 else if tier = "max" then 60
      else if tier = "builder" then 20 else 2)
    (if tier = "demo" then 0 else 50000000) entropy

def handleSyncSession (env : WorkerEnv) (db : Database) (body : Option SyncSessionBody)
    (entropy : TokenEntropy) : Issued :=
  match body with
  | none => .refused db
  | some body =>
    match body.tenantId with
    | none => .refused db
    | some tenantId =>
      { token := some (sessionToken (sessionTier body) entropy)
        db := storeSession env db (sessionUser tenantId body)
          (syncedRecord tenantId body entropy) }

/-- `profileData?.login || "collective-dev"`. -/
def githubLogin (profile : Option GithubProfile) : String :=
  ((profile.bind GithubProfile.login).filter (· ≠ "")).getD "collective-dev"

/-- The tenant of a GitHub profile; without an id, of its login. -/
def githubTenant (profile : Option GithubProfile) : String :=
  match (profile.bind GithubProfile.id).filter (· ≠ 0) with
  | some id => "gh_" ++ toString id
  | none => "gh_" ++ githubLogin profile

def githubUser (profile : Option GithubProfile) : UserRow where
  id := githubTenant profile
  email := some (((profile.bind GithubProfile.email).filter (· ≠ "")).getD
    (githubLogin profile ++ "@users.noreply.github.com"))
  tier := "max"
  role := some "user"
  sybilScore := 95

def githubRecord (profile : Option GithubProfile) (entropy : TokenEntropy) : AuthTokenRecord :=
  sessionRecord (githubTenant profile) "max" 60 50000000 entropy

def handleOAuthGithubCallback (env : WorkerEnv) (db : Database) (code : Option String)
    (profile : Option GithubProfile) (entropy : TokenEntropy) : Issued :=
  if isFalsy code then .refused db
  else
    { token := some (sessionToken "max" entropy)
      db := storeSession env db (githubUser profile) (githubRecord profile entropy) }

/-- The tenant a token is created for: the administrator may name another. -/
def tokenTenant (tenantId : String) (tenantHeader : Option String) (body : CreateTokenBody) :
    String :=
  if tenantId = "admin" then
    (nonBlank tenantHeader <|> nonBlank body.tenantId).getD tenantId
  else tenantId

def projectToken (entropy : TokenEntropy) : String := "kc_proj_live_" ++ entropy.random

def projectRecord (tenantId : String) (tenantHeader : Option String) (body : CreateTokenBody)
    (entropy : TokenEntropy) : AuthTokenRecord where
  id := (nonBlank body.id).getD entropy.tokenId
  hashSha256 := Edge.hashToken (projectToken entropy)
  tenantId := tokenTenant tenantId tenantHeader body
  budgetMicrodollars := body.budgetMicrodollars.getD 0
  spentMicrodollars := 0
  allowedProviders := body.allowedProviders.getD []
  rpmLimit := (body.rpmLimit.filter (0 < ·)).getD 60
  expiresAt := body.expiresAt

def handlePostTokens (env : WorkerEnv) (db : Database) (tenantId : String)
    (request : DashboardRequest) (entropy : TokenEntropy) : Issued :=
  if tenantId = "" ∨ tenantId = "anonymous" ∨ tenantId = "guest" ∨ !env.hasDb then .refused db
  else
    match request.createToken with
    | none => .refused db
    | some body =>
      if isBlank (env.kcMasterKey.getD "") then .refused db
      else
        match db.authTokens.insert (projectRecord tenantId request.tenantHeader body entropy) with
        | none => .refused db
        | some authTokens => ⟨some (projectToken entropy), { db with authTokens }⟩

/-- A token is handed out with its record stored. -/
theorem handlePostTokens_token {env : WorkerEnv} {db : Database} {tenantId token : String}
    {request : DashboardRequest} {entropy : TokenEntropy}
    (issued : (handlePostTokens env db tenantId request entropy).token = some token) :
    tenantId ≠ "anonymous" ∧ token = projectToken entropy ∧ ∃ body authTokens,
      db.authTokens.insert (projectRecord tenantId request.tenantHeader body entropy) =
          some authTokens ∧
        (handlePostTokens env db tenantId request entropy).db = { db with authTokens } := by
  unfold handlePostTokens at issued ⊢
  by_cases refused : tenantId = "" ∨ tenantId = "anonymous" ∨ tenantId = "guest" ∨
      (!env.hasDb) = true
  · rw [if_pos refused] at issued
    cases issued
  · rw [if_neg refused] at issued ⊢
    refine ⟨fun anonymous => refused (Or.inr (Or.inl anonymous)), ?_⟩
    cases given : request.createToken with
    | none =>
      rw [given] at issued
      cases issued
    | some body =>
      simp only [given] at issued
      by_cases keyless : isBlank (env.kcMasterKey.getD "") = true
      · rw [if_pos keyless] at issued
        cases issued
      · simp only [if_neg keyless] at issued ⊢
        cases inserted : db.authTokens.insert
            (projectRecord tenantId request.tenantHeader body entropy) with
        | none =>
          rw [inserted] at issued
          cases issued
        | some authTokens =>
          rw [inserted] at issued
          exact ⟨(Option.some.inj issued).symm, body, authTokens, inserted, rfl⟩

end Sessions

namespace DashboardRouter

open AuthMiddleware

variable [Edge] [Host] (router : DashboardRouter) (env : WorkerEnv)

/-- What a handled request is answered with, as far as tokens go. -/
def issue (db : Database) (request : DashboardRequest) (entropy : TokenEntropy) :
    Handled → Issued
  | .githubCallback => handleOAuthGithubCallback env db request.code request.github entropy
  | .syncSession => handleSyncSession env db request.syncSession entropy
  | .route .postTokens tenantId => handlePostTokens env db tenantId request entropy
  | _ => .refused db

end DashboardRouter

end KeyCollective
