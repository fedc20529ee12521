import KeyCollective.Dashboard.Tokens

/-!
# Who a dashboard request acts for

A request may act for the tenant its token authenticates as, and the master key for any.
Where a request acts for another tenant it is the `x-tenant-id` header that named it, and a
token can be had for a tenant by asking for a session of its.
-/

namespace KeyCollective

open AuthMiddleware

/-- A request, the router and the bindings it meets, and the database it finds. -/
structure Visit where
  router : DashboardRouter
  env : WorkerEnv
  db : Database
  request : DashboardRequest
  now : Int
  /-- The limiter in the state it is in. -/
  limiter : AdmitRequest → Except AuthError Admitted
  entropy : TokenEntropy

namespace Visit

open DashboardRouter (ownTenant)

variable [Edge] [Host] (visit : Visit)

def auth (rawToken : String) : Except AuthError AuthenticatedContext :=
  visit.router.authenticateToken visit.env visit.db visit.request visit.now visit.limiter rawToken

def handled : Handled :=
  visit.router.handle visit.env visit.db visit.request visit.auth

def issued : Issued :=
  DashboardRouter.issue visit.env visit.db visit.request visit.entropy visit.handled

def HoldsMasterKey : Prop :=
  ∃ rawToken, visit.request.presented = .ok (some rawToken) ∧
    visit.router.effectiveMasterKey visit.env = some rawToken

/-- The presented token authenticates as the tenant. -/
def Resolves (tenantId : String) : Prop :=
  ∃ rawToken context, visit.request.presented = .ok (some rawToken) ∧
    visit.auth rawToken = .ok context ∧ context.tenantId = tenantId

/-- The users table has the tenant as an administrator. -/
def Administrator (tenantId : String) : Prop :=
  tenantId = "admin" ∨ visit.env.hasDb = true ∧
    (visit.db.users.get? tenantId).any (fun user => user.tier = "admin" ∨ user.role = some "admin")

/-- The two routes that are served before the tenant is resolved. -/
def LogsIn : Prop :=
  visit.request.method = "GET" ∧ visit.request.pathname = "/api/auth/github/callback"

def SyncsSession : Prop :=
  visit.request.method = "POST" ∧ visit.request.pathname = "/api/auth/sync-session"

/-- GitHub confirmed the login of the tenant's account. -/
def LoggedIn (tenantId : String) : Prop :=
  visit.LogsIn ∧
    (∃ profile, visit.request.github = some profile ∧
      (profile.id.any (· ≠ 0) ∨ profile.login.any (· ≠ ""))) ∧
    githubTenant visit.request.github = tenantId

/-- A token of the tenant's may be handed out: to the tenant, or to the administrator. -/
def Entitled (tenantId : String) : Prop :=
  visit.HoldsMasterKey ∨ visit.Resolves tenantId ∨ visit.Resolves "admin" ∨
    visit.LoggedIn tenantId

/-- A later request passes for the tenant with the token, its budget and limits aside. -/
def Passes (db : Database) (token tenantId : String) : Prop :=
  ∃ record, db.authTokens.findByToken token = some record ∧ record.tenantId = tenantId ∧
    record.expiresAt.all (visit.now < ·)

/-- The tokens a handled request is answered with are for tenants that are entitled to them. -/
def Issues : Prop :=
  ∀ token, visit.issued.token = some token → ∀ tenantId,
    visit.Passes visit.issued.db token tenantId → visit.Entitled tenantId

/-- The request acts only as it is authenticated. -/
structure Sound : Prop where
  acts : ∀ route tenantId, visit.handled = .route route tenantId → route.ActsForTenant →
    tenantId ≠ "anonymous" → visit.HoldsMasterKey ∨ visit.Resolves tenantId
  administers : ∀ tenantId, visit.handled = .route .admin tenantId →
    visit.HoldsMasterKey ∨ ∃ admin, visit.Resolves admin ∧ visit.Administrator admin
  issues : visit.Issues

/-- The header names a tenant that the token does not authenticate as, and the handler
follows it: there is no token, or one that fails on a `GET`, or one of no tenant of its own. -/
def Named (rawToken : Option String) (tenantId : String) : Prop :=
  nonBlank visit.request.tenantHeader = some tenantId ∧ tenantId ≠ "anonymous" ∧
    ∀ token, rawToken = some token →
      visit.router.effectiveMasterKey visit.env ≠ some token ∧
        ((∃ e, visit.auth token = .error e) ∧ visit.request.method = "GET" ∨
          ∃ context, visit.auth token = .ok context ∧ context.tenantId ≠ tenantId ∧
            (context.tenantId = "" ∨ context.tenantId = "anonymous" ∨
              context.tenantId = "default"))

/-- The session would be stored: there is a database, no other user has the email, and the
token's id and hash are new. -/
def Stores (user : UserRow) (record : AuthTokenRecord) : Prop :=
  visit.env.hasDb = true ∧ visit.db.users.emailTaken user = false ∧
    visit.db.authTokens.taken record = false

def route : DashboardRoute := dashboardRoute visit.request.method visit.request.pathname

/-- No header names a tenant that matters, and a session is stored only for a tenant whose
request it is. -/
structure Granted : Prop where
  named : ¬visit.LogsIn → ¬visit.SyncsSession → ∀ rawToken tenantId, visit.request.presented = .ok rawToken →
    visit.Named rawToken tenantId → visit.route.ActsForTenant →
      visit.route = .admin ∧ ¬visit.Administrator tenantId
  synced : visit.SyncsSession → ∀ body tenantId,
    visit.request.syncSession = some body → body.tenantId = some tenantId →
      visit.Stores (sessionUser tenantId body) (syncedRecord tenantId body visit.entropy) →
        visit.Entitled tenantId
  loggedIn : visit.LogsIn → isFalsy visit.request.code = false →
    visit.Stores (githubUser visit.request.github)
        (githubRecord visit.request.github visit.entropy) →
      visit.Entitled (githubTenant visit.request.github)

/-! ## Acting for a tenant -/

variable {visit}

omit [Host] in
theorem not_holdsMasterKey {rawToken : Option String}
    (presented : visit.request.presented = .ok rawToken)
    (other : ∀ token, rawToken = some token →
      visit.router.effectiveMasterKey visit.env ≠ some token) : ¬visit.HoldsMasterKey := by
  rintro ⟨token, given, master⟩
  rw [presented, Except.ok.injEq] at given
  exact other token given master

omit [Edge] [Host] in
theorem weak_tenant {context : AuthenticatedContext} :
    ownTenant context = "default" ∨ ownTenant context = "anonymous" ↔
      context.tenantId = "" ∨ context.tenantId = "anonymous" ∨ context.tenantId = "default" := by
  unfold ownTenant
  split
  · rename_i empty
    simp [empty]
  · rename_i named
    simp only [named, false_or]
    exact or_comm

omit [Edge] [Host] in
theorem ownTenant_named {context : AuthenticatedContext} (own : ownTenant context ≠ "anonymous") :
    context.tenantId = ownTenant context := by
  unfold ownTenant at own ⊢
  split
  · rename_i empty
    exact absurd (if_pos empty) own
  · rfl

omit [Edge] [Host] in
theorem header_twice (header : Option String) (resolved : String) :
    (if header.getD resolved = "anonymous" then header.getD (header.getD resolved)
      else header.getD resolved) = header.getD resolved := by
  cases header with
  | none => exact ite_self resolved
  | some name => exact ite_self name

/-- What a header makes of a request without a tenant of its own. -/
theorem header_cases {rawToken : Option String} {resolved tenantId : String}
    (unnamed : resolved = "anonymous" ∨ resolved = "default")
    (follows : (nonBlank visit.request.tenantHeader).getD resolved = tenantId)
    (others : ∀ header, nonBlank visit.request.tenantHeader = some header → header ≠ "anonymous" →
      visit.Resolves header ∨ visit.Named rawToken header)
    (own : resolved = "default" → visit.Resolves resolved) :
    tenantId = "anonymous" ∨ visit.Resolves tenantId ∨ visit.Named rawToken tenantId := by
  cases header : nonBlank visit.request.tenantHeader with
  | none =>
    rw [header, Option.getD_none] at follows
    subst follows
    rcases unnamed with anonymous | default
    · exact Or.inl anonymous
    · exact Or.inr (Or.inl (own default))
  | some name =>
    rw [header, Option.getD_some] at follows
    subst follows
    by_cases anonymous : name = "anonymous"
    · exact Or.inl anonymous
    · exact Or.inr (others name header anonymous)

/-- A tenant that a request is resolved to is its own, or was named in the header. -/
theorem resolved_cases {rawToken : Option String} {tenantId : String}
    (presented : visit.request.presented = .ok rawToken)
    (resolved : visit.router.resolveTenant visit.env visit.request rawToken visit.auth =
      some tenantId) :
    tenantId = "anonymous" ∨ visit.HoldsMasterKey ∨ visit.Resolves tenantId ∨
      visit.Named rawToken tenantId := by
  have ordinary (cases : tenantId = "anonymous" ∨ visit.Resolves tenantId ∨
      visit.Named rawToken tenantId) : tenantId = "anonymous" ∨ visit.HoldsMasterKey ∨
      visit.Resolves tenantId ∨ visit.Named rawToken tenantId :=
    cases.imp_right Or.inr
  unfold DashboardRouter.resolveTenant at resolved
  cases rawToken with
  | none =>
    simp only [Option.map_some, ↓reduceIte, Option.some.injEq] at resolved
    refine ordinary (header_cases (Or.inl rfl) resolved ?_ (by simp))
    intro header named other
    exact Or.inr ⟨named, other, by simp⟩
  | some token =>
    by_cases master : visit.router.effectiveMasterKey visit.env = some token
    · exact Or.inr (Or.inl ⟨token, presented, master⟩)
    · simp only [if_neg master] at resolved
      cases authenticated : visit.auth token with
      | error e =>
        simp only [authenticated] at resolved
        by_cases get : visit.request.method = "GET"
        · simp only [if_pos get, Option.map_some, ↓reduceIte, Option.some.injEq] at resolved
          refine ordinary (header_cases (Or.inl rfl) resolved ?_ (by simp))
          intro header named other
          refine Or.inr ⟨named, other, ?_⟩
          rintro _ ⟨⟩
          exact ⟨master, Or.inl ⟨⟨e, authenticated⟩, get⟩⟩
        · simp [if_neg get] at resolved
      | ok context =>
        simp only [authenticated] at resolved
        by_cases weak : ownTenant context = "default" ∨ ownTenant context = "anonymous"
        · have follows : (nonBlank visit.request.tenantHeader).getD (ownTenant context) =
              tenantId := by
            rw [← header_twice]
            simpa only [if_pos weak, Option.map_some, Option.some.injEq] using resolved
          refine ordinary (header_cases weak.symm follows ?_ ?_)
          · intro header named other
            by_cases same : context.tenantId = header
            · exact Or.inl ⟨token, context, presented, authenticated, same⟩
            · refine Or.inr ⟨named, other, ?_⟩
              rintro _ ⟨⟩
              exact ⟨master, Or.inr ⟨context, authenticated, same, weak_tenant.mp weak⟩⟩
          · intro default
            exact ⟨token, context, presented, authenticated,
              ownTenant_named (default ▸ by decide)⟩
        · simp only [if_neg weak, Option.map_some, Option.some.injEq] at resolved
          obtain ⟨-, own⟩ := not_or.mp weak
          rw [if_neg own] at resolved
          exact Or.inr (Or.inr (Or.inl ⟨token, context, presented, authenticated,
            (ownTenant_named own).trans resolved⟩))

/-- A tenant that the header names is the one the request is resolved to, and not its own. -/
theorem resolved_named {rawToken : Option String} {tenantId : String}
    (presented : visit.request.presented = .ok rawToken) (named : visit.Named rawToken tenantId) :
    visit.router.resolveTenant visit.env visit.request rawToken visit.auth = some tenantId ∧
      ¬visit.HoldsMasterKey ∧ ¬visit.Resolves tenantId := by
  obtain ⟨header, other, unowned⟩ := named
  refine ⟨?_, not_holdsMasterKey presented fun token given => (unowned token given).1, ?_⟩
  · unfold DashboardRouter.resolveTenant
    cases rawToken with
    | none => simp only [header, Option.getD_some, Option.map_some, ↓reduceIte]
    | some token =>
      obtain ⟨master, ⟨⟨e, failed⟩, get⟩ | ⟨context, authenticated, -, weak⟩⟩ := unowned token rfl
      · simp only [if_neg master, failed, if_pos get, header, Option.getD_some, Option.map_some,
          ↓reduceIte]
      · simp only [if_neg master, authenticated, if_pos (weak_tenant.mpr weak), header,
          Option.getD_some, Option.map_some, if_neg other]
  · rintro ⟨token, context, given, authenticated, same⟩
    rw [presented, Except.ok.injEq] at given
    obtain ⟨-, ⟨⟨e, failed⟩, -⟩ | ⟨context', authenticated', differs, -⟩⟩ := unowned token given
    · rw [failed] at authenticated
      cases authenticated
    · rw [authenticated'] at authenticated
      cases authenticated
      exact differs same

theorem administrator_iff {rawToken : Option String} {tenantId : String}
    (named : visit.Named rawToken tenantId) :
    visit.router.isAdmin visit.env visit.db rawToken tenantId = true ↔
      visit.Administrator tenantId := by
  obtain ⟨header, other, unowned⟩ := named
  have some : tenantId ≠ "" := by
    unfold nonBlank at header
    obtain ⟨text, given, rfl⟩ := Option.map_eq_some_iff.mp header
    exact trim_ne_empty (by simpa using (Option.filter_eq_some_iff.mp given).2)
  have master : ¬(rawToken.isSome = true ∧ rawToken = visit.router.effectiveMasterKey visit.env) := by
    rintro ⟨given, same⟩
    obtain ⟨token, rfl⟩ := Option.isSome_iff_exists.mp given
    exact (unowned token rfl).1 same.symm
  simp only [DashboardRouter.isAdmin, Administrator, decide_eq_true_eq, master, false_or, ne_eq,
    some, other, not_false_eq_true, true_and]

theorem handled_logsIn_iff : visit.handled = .githubCallback ↔ visit.LogsIn := by
  unfold handled DashboardRouter.handle LogsIn
  split
  · rename_i login
    exact iff_of_true rfl login
  · rename_i login
    refine iff_of_false ?_ login
    split
    · exact nofun
    · split
      · exact nofun
      · split
        · exact nofun
        · simp only
          split <;> exact nofun

theorem handled_syncsSession_iff : visit.handled = .syncSession ↔ visit.SyncsSession := by
  unfold handled DashboardRouter.handle SyncsSession
  split
  · rename_i login
    exact iff_of_false nofun fun sync => absurd (login.1.symm.trans sync.1) (by decide)
  · split
    · rename_i sync
      exact iff_of_true rfl sync
    · rename_i sync
      refine iff_of_false ?_ sync
      split
      · exact nofun
      · split
        · exact nofun
        · simp only
          split <;> exact nofun

/-- A request that is not served early runs a route for the tenant it is resolved to. -/
theorem handled_route_iff {route : DashboardRoute} {tenantId : String} :
    visit.handled = .route route tenantId ↔
      (¬visit.LogsIn ∧ ¬visit.SyncsSession) ∧ route = visit.route ∧ ∃ rawToken,
        visit.request.presented = .ok rawToken ∧
        visit.router.resolveTenant visit.env visit.request rawToken visit.auth = some tenantId ∧
        (route = .admin → visit.router.isAdmin visit.env visit.db rawToken tenantId = true) := by
  unfold handled DashboardRouter.handle LogsIn SyncsSession Visit.route
  split
  · rename_i early
    simp [early]
  · split
    · rename_i early
      simp [early]
    · rename_i login sync
      cases presented : visit.request.presented with
      | error e => simp
      | ok rawToken =>
        simp only [login, sync, not_false_eq_true, true_and, Except.ok.injEq, exists_eq_left',
          and_self]
        cases resolved : visit.router.resolveTenant visit.env visit.request rawToken
            visit.auth with
        | none => simp
        | some acting =>
          simp only [Option.some.injEq]
          constructor
          · split
            · intro forbidden
              cases forbidden
            · rename_i allowed
              rintro ⟨⟩
              exact ⟨rfl, rfl, fun admin => by_contra fun other => allowed ⟨admin, other⟩⟩
          · rintro ⟨rfl, rfl, allowed⟩
            exact if_neg fun refused => refused.2 (allowed refused.1)

/-! ## Tokens -/

omit [Host] in
/-- A session that was stored passes for its tenant; one that was not, for none. -/
theorem passes_stored_iff (user : UserRow) (record : AuthTokenRecord) {token : String}
    (tenantId : String) (some : token ≠ "") (fresh : visit.db.authTokens.findByToken token = none)
    (hash : record.hashSha256 = Edge.hashToken token) (lasts : record.expiresAt = none) :
    visit.Passes (storeSession visit.env visit.db user record) token tenantId ↔
      visit.Stores user record ∧ record.tenantId = tenantId := by
  have unstored {db : Database} (same : db.authTokens = visit.db.authTokens)
      (not : ¬visit.Stores user record) :
      visit.Passes db token tenantId ↔ visit.Stores user record ∧ record.tenantId = tenantId := by
    refine iff_of_false ?_ fun both => not both.1
    rintro ⟨found, lookup, -⟩
    rw [same, fresh] at lookup
    cases lookup
  unfold storeSession
  cases bound : visit.env.hasDb with
  | false =>
    exact unstored rfl fun stores => by simpa [bound] using stores.1
  | true =>
    simp only [Bool.not_true, Bool.false_eq_true, ↓reduceIte]
    cases upserted : visit.db.users.upsertSession user with
    | none =>
      refine unstored rfl fun stores => ?_
      unfold Users.upsertSession at upserted
      rw [stores.2.1] at upserted
      simp only [Bool.false_eq_true, ↓reduceIte] at upserted
      split at upserted <;> cases upserted
    | some users =>
      cases inserted : visit.db.authTokens.insert record with
      | none =>
        refine unstored rfl fun stores => ?_
        unfold AuthTokens.insert at inserted
        rw [stores.2.2] at inserted
        cases inserted
      | some authTokens =>
        have free : visit.db.users.emailTaken user = false := by
          by_contra taken
          rw [Users.upsertSession, if_pos (Bool.not_eq_false _ ▸ taken)] at upserted
          cases upserted
        have unused : visit.db.authTokens.taken record = false := by
          by_contra taken
          rw [AuthTokens.insert, if_pos (Bool.not_eq_false _ ▸ taken)] at inserted
          cases inserted
        have lookup := AuthTokens.findByToken_insert some hash inserted
        constructor
        · rintro ⟨found, given, same, -⟩
          rw [lookup] at given
          cases given
          exact ⟨⟨bound, free, unused⟩, same⟩
        · rintro ⟨-, same⟩
          exact ⟨record, lookup, same, by rw [lasts]; rfl⟩

omit [Edge] [Host] in
theorem sessionToken_ne_empty (tier : String) (entropy : TokenEntropy) :
    sessionToken tier entropy ≠ "" := by
  intro empty
  have chars := congrArg String.length empty
  simp [sessionToken] at chars

omit [Edge] [Host] in
theorem projectToken_ne_empty (entropy : TokenEntropy) : projectToken entropy ≠ "" := by
  intro empty
  have chars := congrArg String.length empty
  simp [projectToken] at chars

omit [Host] in
/-- The token route hands out tokens of the tenant it is run for, or, to the administrator, of
any. -/
theorem handlePostTokens_passes {tenantId : String} {token : String}
    (issued : (handlePostTokens visit.env visit.db tenantId visit.request visit.entropy).token =
      some token) {owner : String}
    (passes : visit.Passes (handlePostTokens visit.env visit.db tenantId visit.request
      visit.entropy).db token owner) :
    tenantId ≠ "anonymous" ∧ (tenantId = "admin" ∨ owner = tenantId) := by
  obtain ⟨signedIn, rfl, body, authTokens, inserted, after⟩ := handlePostTokens_token issued
  refine ⟨signedIn, ?_⟩
  obtain ⟨record, lookup, owned, -⟩ := passes
  rw [after, AuthTokens.findByToken_insert (projectToken_ne_empty _) rfl inserted] at lookup
  cases lookup
  by_cases admin : tenantId = "admin"
  · exact Or.inl admin
  · exact Or.inr (owned.symm.trans (if_neg admin))

/-! ## Soundness -/

theorem acts_of_named
    (named : ¬visit.LogsIn → ¬visit.SyncsSession → ∀ rawToken tenantId,
      visit.request.presented = .ok rawToken → visit.Named rawToken tenantId →
        visit.route.ActsForTenant → visit.route = .admin ∧ ¬visit.Administrator tenantId)
    {route : DashboardRoute} {tenantId : String} (handled : visit.handled = .route route tenantId)
    (acts : route.ActsForTenant) (someone : tenantId ≠ "anonymous") :
    visit.HoldsMasterKey ∨ visit.Resolves tenantId := by
  obtain ⟨⟨login, sync⟩, rfl, rawToken, presented, resolved, allowed⟩ :=
    handled_route_iff.mp handled
  obtain anonymous | master | own | header := resolved_cases presented resolved
  · exact absurd anonymous someone
  · exact Or.inl master
  · exact Or.inr own
  · obtain ⟨admin, outsider⟩ := named login sync rawToken tenantId presented header acts
    exact absurd ((administrator_iff header).mp (allowed admin)) outsider

theorem named_of_acts
    (acts : ∀ route tenantId, visit.handled = .route route tenantId → route.ActsForTenant →
      tenantId ≠ "anonymous" → visit.HoldsMasterKey ∨ visit.Resolves tenantId)
    (late : ¬visit.LogsIn ∧ ¬visit.SyncsSession) {rawToken : Option String} {tenantId : String}
    (presented : visit.request.presented = .ok rawToken) (named : visit.Named rawToken tenantId)
    (runs : visit.route.ActsForTenant) :
    visit.route = .admin ∧ ¬visit.Administrator tenantId := by
  obtain ⟨resolved, keyless, other⟩ := resolved_named presented named
  by_contra run
  have handled : visit.handled = .route visit.route tenantId := by
    refine handled_route_iff.mpr ⟨late, rfl, rawToken, presented, resolved, fun admin => ?_⟩
    rw [administrator_iff named]
    by_contra outsider
    exact run ⟨admin, outsider⟩
  rcases acts _ _ handled runs named.2.1 with master | own
  · exact keyless master
  · exact other own

/-- A route that is run for an administrator is run for one whose token it is. -/
theorem administers_of_acts
    (acts : ∀ route tenantId, visit.handled = .route route tenantId → route.ActsForTenant →
      tenantId ≠ "anonymous" → visit.HoldsMasterKey ∨ visit.Resolves tenantId)
    {tenantId : String} (handled : visit.handled = .route .admin tenantId) :
    visit.HoldsMasterKey ∨ ∃ admin, visit.Resolves admin ∧ visit.Administrator admin := by
  obtain ⟨-, -, rawToken, presented, -, allowed⟩ := handled_route_iff.mp handled
  have admin := allowed rfl
  simp only [DashboardRouter.isAdmin, decide_eq_true_eq] at admin
  rcases admin with same | ⟨given, master⟩ | ⟨bound, -, someone, row⟩
  · subst same
    exact (acts _ _ handled (by decide) (by decide)).imp_right fun own => ⟨_, own, Or.inl rfl⟩
  · obtain ⟨token, rfl⟩ := Option.isSome_iff_exists.mp given
    exact Or.inl ⟨token, presented, master.symm⟩
  · exact (acts _ _ handled (by decide) someone).imp_right fun own =>
      ⟨tenantId, own, Or.inr ⟨bound, row⟩⟩

/-- A session that is synced hands out a token of its tenant, if it is stored. -/
theorem synced_iff (fresh : ∀ tier,
      visit.db.authTokens.findByToken (sessionToken tier visit.entropy) = none)
    (handled : visit.handled = .syncSession) :
    visit.Issues ↔ ∀ body tenantId, visit.request.syncSession = some body →
      body.tenantId = some tenantId →
        visit.Stores (sessionUser tenantId body) (syncedRecord tenantId body visit.entropy) →
          visit.Entitled tenantId := by
  have issued : visit.issued = handleSyncSession visit.env visit.db visit.request.syncSession
      visit.entropy := by
    rw [Visit.issued, handled]
    rfl
  unfold Issues
  rw [issued]
  cases posted : visit.request.syncSession with
  | none =>
    refine iff_of_true (fun token given => ?_) fun _ _ given => ?_
    · cases given
    · cases given
  | some body =>
    simp only [handleSyncSession]
    cases named : body.tenantId with
    | none =>
      refine iff_of_true (fun token given => ?_) fun _ _ given again => ?_
      · cases given
      · cases given
        rw [named] at again
        cases again
    | some tenantId =>
      have passes (owner : String) := passes_stored_iff (sessionUser tenantId body)
        (syncedRecord tenantId body visit.entropy) owner
        (sessionToken_ne_empty (sessionTier body) visit.entropy) (fresh (sessionTier body)) rfl rfl
      constructor
      · rintro issues _ _ ⟨⟩ again stores
        rw [named] at again
        cases again
        exact issues _ rfl tenantId ((passes tenantId).mpr ⟨stores, rfl⟩)
      · rintro synced _ ⟨⟩ owner passed
        obtain ⟨stores, rfl⟩ := (passes owner).mp passed
        exact synced body tenantId rfl named stores

/-- A login hands out a token of the account's tenant, if it is stored. -/
theorem loggedIn_iff (fresh : ∀ tier,
      visit.db.authTokens.findByToken (sessionToken tier visit.entropy) = none)
    (handled : visit.handled = .githubCallback) :
    visit.Issues ↔ (isFalsy visit.request.code = false →
      visit.Stores (githubUser visit.request.github)
          (githubRecord visit.request.github visit.entropy) →
        visit.Entitled (githubTenant visit.request.github)) := by
  have issued : visit.issued = handleOAuthGithubCallback visit.env visit.db visit.request.code
      visit.request.github visit.entropy := by
    rw [Visit.issued, handled]
    rfl
  unfold Issues
  rw [issued, handleOAuthGithubCallback]
  cases absent : isFalsy visit.request.code with
  | true =>
    refine iff_of_true (fun token given => ?_) fun given => ?_
    · cases given
    · cases given
  | false =>
    have passes (owner : String) := passes_stored_iff (githubUser visit.request.github)
      (githubRecord visit.request.github visit.entropy) owner
      (sessionToken_ne_empty "max" visit.entropy) (fresh "max") rfl rfl
    constructor
    · intro issues _ stores
      exact issues _ rfl _ ((passes _).mpr ⟨stores, rfl⟩)
    · rintro loggedIn _ ⟨⟩ owner passed
      obtain ⟨stores, rfl⟩ := (passes owner).mp passed
      exact loggedIn rfl stores

/-- A request that acts for its own tenant is handed a token of that tenant, or, when it is
the administrator's, of any. -/
theorem issues_of_acts
    (acts : ∀ route tenantId, visit.handled = .route route tenantId → route.ActsForTenant →
      tenantId ≠ "anonymous" → visit.HoldsMasterKey ∨ visit.Resolves tenantId)
    {route : DashboardRoute} {tenantId : String} (handled : visit.handled = .route route tenantId) :
    visit.Issues := by
  intro token issued owner passes
  unfold Visit.issued at issued passes
  rw [handled] at issued passes
  by_cases tokens : route = .postTokens
  · subst tokens
    obtain ⟨signedIn, admin | own⟩ := handlePostTokens_passes issued passes
    · subst admin
      exact (acts _ _ handled (by decide) signedIn).imp_right fun own => Or.inr (Or.inl own)
    · subst own
      exact (acts _ _ handled (by decide) signedIn).imp_right Or.inl
  · cases route with
    | postTokens => exact absurd rfl tokens
    | _ => cases issued

/-- Apart from a header that names a tenant and a session that is stored, a request acts only
as it is authenticated. -/
theorem acts_as_authenticated_iff (visit : Visit) (fresh : ∀ tier,
      visit.db.authTokens.findByToken (sessionToken tier visit.entropy) = none) :
    visit.Sound ↔ visit.Granted := by
  constructor
  · rintro ⟨acts, -, issues⟩
    refine ⟨fun login sync rawToken tenantId presented named runs =>
      named_of_acts acts ⟨login, sync⟩ presented named runs, fun sync => ?_, fun login => ?_⟩
    · exact (synced_iff fresh (handled_syncsSession_iff.mpr sync)).mp issues
    · exact (loggedIn_iff fresh (handled_logsIn_iff.mpr login)).mp issues
  · rintro ⟨named, synced, loggedIn⟩
    have acts : ∀ route tenantId, visit.handled = .route route tenantId → route.ActsForTenant →
        tenantId ≠ "anonymous" → visit.HoldsMasterKey ∨ visit.Resolves tenantId :=
      fun _ _ handled runs someone => acts_of_named named handled runs someone
    refine ⟨acts, fun _ handled => administers_of_acts acts handled, ?_⟩
    cases handled : visit.handled with
    | githubCallback =>
      exact (loggedIn_iff fresh handled).mpr (loggedIn (handled_logsIn_iff.mp handled))
    | syncSession =>
      exact (synced_iff fresh handled).mpr (synced (handled_syncsSession_iff.mp handled))
    | route route tenantId => exact issues_of_acts acts handled
    | unauthorized | failed | forbidden =>
      intro token issued
      rw [Visit.issued, handled] at issued
      cases issued

end Visit

section Examples

attribute [local instance] asciiHost

attribute [local instance] plainEdge

namespace Visit

/-- A request that meets a dashboard without users or tokens. -/
def newcomer (request : DashboardRequest) : Visit where
  router := ⟨none, {}⟩
  env := ⟨some "master", true, none⟩
  db := ⟨.empty, .empty⟩
  request
  now := 0
  limiter _ := .ok ⟨(60 : Int), 1, (59 : Int)⟩
  entropy := ⟨"00", "tok_1"⟩

theorem newcomer_fresh (request : DashboardRequest) (tier : String) :
    (newcomer request).db.authTokens.findByToken (sessionToken tier (newcomer request).entropy) =
      none :=
  if_neg (sessionToken_ne_empty tier _)

/-- `acme`'s keys are asked for without a token. -/
def acmeKeys : DashboardRequest where
  method := "GET"
  pathname := "/api/keys"
  tenantHeader := some "acme"

/-- The administration's tenants are asked for in the administrator's name. -/
def administration : DashboardRequest where
  method := "GET"
  pathname := "/api/admin/tenants"
  tenantHeader := some "admin"

/-- A session is synced for `acme` without a token. -/
def acmeSession : DashboardRequest where
  method := "POST"
  pathname := "/api/auth/sync-session"
  syncSession := some ⟨some "acme", none, none, some "github"⟩

theorem acts_as_authenticated_acme :
    (newcomer acmeKeys).Sound ↔ (newcomer acmeKeys).Granted :=
  acts_as_authenticated_iff (newcomer acmeKeys) (newcomer_fresh acmeKeys)

theorem tokenless (request : DashboardRequest) (presented : request.presented = .ok none) :
    ¬(newcomer request).HoldsMasterKey ∧ ∀ tenantId, ¬(newcomer request).Resolves tenantId := by
  constructor
  · rintro ⟨token, given, -⟩
    rw [show (newcomer request).request = request from rfl, presented] at given
    cases given
  · rintro tenantId ⟨token, -, given, -⟩
    rw [show (newcomer request).request = request from rfl, presented] at given
    cases given

theorem spoofed_unsound {request : DashboardRequest} (route : DashboardRoute) (tenantId : String)
    (presented : request.presented = .ok none)
    (handled : (newcomer request).handled = .route route tenantId) (acts : route.ActsForTenant)
    (someone : tenantId ≠ "anonymous") : ¬(newcomer request).Sound := by
  intro sound
  obtain ⟨keyless, stranger⟩ := tokenless request presented
  rcases sound.acts _ _ handled acts someone with master | own
  · exact keyless master
  · exact stranger _ own

/-- Without a token, `acme`'s keys are listed, the administration is let in, and a token that
passes for `acme` is handed out. -/
theorem acts_unauthenticated :
    ¬(newcomer acmeKeys).Sound ∧ ¬(newcomer administration).Sound ∧
      ¬(newcomer acmeSession).Sound := by
  refine ⟨?_, ?_, ?_⟩
  · exact spoofed_unsound .getKeys "acme" rfl (by decide +kernel) (by decide) (by decide)
  · exact spoofed_unsound .admin "admin" rfl (by decide +kernel) (by decide) (by decide)
  · intro sound
    obtain ⟨keyless, stranger⟩ := tokenless acmeSession rfl
    have stored : (newcomer acmeSession).Stores (sessionUser "acme" ⟨some "acme", none, none,
        some "github"⟩) (syncedRecord "acme" ⟨some "acme", none, none, some "github"⟩
          (newcomer acmeSession).entropy) := ⟨rfl, rfl, rfl⟩
    have synced : (newcomer acmeSession).handled = .syncSession :=
      handled_syncsSession_iff.mpr ⟨rfl, rfl⟩
    have entitled := (synced_iff (newcomer_fresh acmeSession) synced).mp sound.issues _ "acme" rfl
      (by decide) stored
    obtain master | own | admin | ⟨login, -⟩ := entitled
    · exact keyless master
    · exact stranger _ own
    · exact stranger _ admin
    · exact absurd login.1 (by decide)

end Visit

end Examples

end KeyCollective
