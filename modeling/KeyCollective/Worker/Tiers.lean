import KeyCollective.Auth.TenantQuota
import KeyCollective.Dashboard.Tokens
import KeyCollective.Quota.Admission

/-!
# The tier on record and the tier enforced

The users table records a tier for each tenant, which sessions and the administration write.
The quota object of a tenant keeps a tier of its own: the middleware sends it none, and the
worker never sets it, so that it stays what an object starts with.
-/

namespace KeyCollective

open AuthMiddleware Quota

/-- The tier as the tables write it. -/
def Quota.UserTier.name : UserTier → String
  | admin => "admin"
  | ultra => "ultra"
  | max => "max"
  | builder => "builder"
  | probationary => "probationary"
  | demo => "demo"
  | suspended => "suspended"

/-- The database, and the quota objects by the names of their ids. -/
structure TierSite where
  db : Database
  objects : String → TenantQuotaDO.State

namespace TierSite

inductive Op where
  | syncSession (body : Option SyncSessionBody) (entropy : TokenEntropy)
  | githubCallback (code : Option String) (profile : Option GithubProfile) (entropy : TokenEntropy)
  /-- The administration overrides a tier; the body may leave the new one out. -/
  | overrideTier (targetTenantId : String) (newTier : Option String)
  /-- A request that was authenticated as far as the limiter. -/
  | request (transport : Transport) (ask : AdmitRequest) (loadedAt now persistedAt : Int)
  | clearMemoryCache (name : String)
  | restart (name : String)

/-- Every object is new. -/
def start (db : Database) : TierSite := ⟨db, fun name => (tenantQuota name).instantiate none⟩

def setObject (site : TierSite) (name : String) (s : TenantQuotaDO.State) : TierSite :=
  { site with objects := Function.update site.objects name s }

/-- The answer of the object that a request is sent to. One that has no name is not
constructed. -/
def answer (site : TierSite) (transport : Transport) (ask : AdmitRequest)
    (loadedAt now persistedAt : Int) :
    Except TenantIsolationError ConsumeQuotaResult × TierSite :=
  let name := ask.record.tenantId
  match TenantQuotaDO.create name {} with
  | .error e => (.error e, site)
  | .ok q =>
    let (outcome, s) := q.consumeQuota (site.objects name) (consumeRequest transport ask)
      loadedAt now persistedAt
    (outcome, site.setObject name s)

variable [Edge] (env : WorkerEnv)

def step (site : TierSite) : Op → TierSite
  | .syncSession body entropy =>
    { site with db := (handleSyncSession env site.db body entropy).db }
  | .githubCallback code profile entropy =>
    { site with db := (handleOAuthGithubCallback env site.db code profile entropy).db }
  | .overrideTier targetTenantId newTier =>
    { site with
      db :=
        { site.db with
          users := site.db.users.overrideTier targetTenantId
            ((newTier.filter (· ≠ "")).getD "ultra") } }
  | .request transport ask loadedAt now persistedAt =>
    (site.answer transport ask loadedAt now persistedAt).2
  | .clearMemoryCache name =>
    site.setObject name (TenantQuotaDO.clearMemoryCache (site.objects name))
  | .restart name =>
    site.setObject name ((tenantQuota name).instantiate (site.objects name).storage)

/-- A request is held to the limits of the tier on record. -/
def Enforces (site : TierSite) : Op → Prop
  | .request transport ask loadedAt now persistedAt =>
    ∀ result, (site.answer transport ask loadedAt now persistedAt).1 = .ok result →
      ∀ user, site.db.users.get? ask.record.tenantId = some user → user.tier = result.tier.name
  | _ => True

/-- The tier on record is the one that a quota object starts with. -/
def RecordsBuilder (site : TierSite) : Op → Prop
  | .request _ ask _ _ _ =>
    isBlank ask.record.tenantId = false →
      ∀ user, site.db.users.get? ask.record.tenantId = some user → user.tier = "builder"
  | _ => True

/-! ## The tier of an object -/

/-- The object has the tenant it is named after and the tier it started with, in memory and
in storage. -/
structure Untouched (name : String) (s : TenantQuotaDO.State) : Prop where
  tenantId : s.tenantId = name
  tier : s.tier = .builder
  stored : ∀ data, s.storage = some data → data.tenantId = name ∧ data.tier = .builder

omit [Edge] in
theorem Untouched.instantiate {name : String} {storage : Option TenantQuotaData}
    (stored : ∀ data, storage = some data → data.tenantId = name ∧ data.tier = .builder) :
    Untouched name ((tenantQuota name).instantiate storage) :=
  ⟨rfl, rfl, stored⟩

section Objects

omit [Edge]

variable {name : String} {s : TenantQuotaDO.State} (q : TenantQuotaDO)

theorem Untouched.ensureLoaded (untouched : Untouched name s) (now : Int) :
    Untouched name (q.ensureLoaded s now) := by
  unfold TenantQuotaDO.ensureLoaded
  split
  · exact untouched
  · cases storage : s.storage with
    | none =>
      simp only [TenantQuotaDO.readStorage, storage]
      exact ⟨untouched.tenantId, untouched.tier, untouched.stored⟩
    | some data =>
      obtain ⟨tenantId, tier⟩ := untouched.stored data storage
      simp only [TenantQuotaDO.readStorage, storage]
      refine ⟨?_, tier, untouched.stored⟩
      simp only [TenantQuotaDO.pruneEntries, TenantQuotaDO.restore, tenantId, untouched.tenantId]
      exact ite_self name

theorem Untouched.prepared (untouched : Untouched name s) (loadedAt now : Int) :
    Untouched name (q.prepared s loadedAt now) := by
  have loaded := untouched.ensureLoaded q loadedAt
  exact ⟨loaded.tenantId, loaded.tier, loaded.stored⟩

/-- A request of the middleware's is answered on the tier an object starts with. -/
theorem Untouched.consumeQuota (untouched : Untouched name s) (request : ConsumeQuotaRequest)
    (own : request.tenantId = some name) (tierless : request.tier = none)
    (loadedAt now persistedAt : Int) :
    (∃ result, (q.consumeQuota s request loadedAt now persistedAt).1 = .ok result ∧
        result.tier = .builder) ∧
      Untouched name (q.consumeQuota s request loadedAt now persistedAt).2 := by
  have prepared := untouched.prepared q loadedAt now
  have accepted : TenantQuotaDO.assertTenant s request.tenantId = .ok () := by
    rw [own, TenantQuotaDO.assertTenant]
    cases targeted : (some name).filter (· ≠ "") with
    | none => rfl
    | some target =>
      obtain rfl := Option.some.inj (Option.filter_eq_some_iff.mp targeted).1
      exact if_neg (not_not.mpr untouched.tenantId.symm)
  have tier := evaluateQuota_tier request
    (q.evaluationContext (q.prepared s loadedAt now) now)
  rw [tierless, Option.getD_none] at tier
  unfold TenantQuotaDO.consumeQuota
  rw [accepted]
  simp only
  rw [← TenantQuotaDO.prepared]
  cases entry : (evaluateQuota request
      (q.evaluationContext (q.prepared s loadedAt now) now)).newEntry with
  | none => exact ⟨⟨_, rfl, tier.trans prepared.tier⟩, prepared⟩
  | some e =>
    refine ⟨⟨_, rfl, tier.trans prepared.tier⟩, prepared.tenantId, prepared.tier, ?_⟩
    intro data stored
    cases stored
    exact ⟨prepared.tenantId, prepared.tier⟩

end Objects

/-! ## Runs -/

/-- No object was touched by more than requests. -/
def AllUntouched (site : TierSite) : Prop := ∀ name, Untouched name (site.objects name)

omit [Edge] in
theorem allUntouched_start (db : Database) : (start db).AllUntouched := by
  intro name
  apply Untouched.instantiate
  intro data stored
  cases stored

omit [Edge] in
theorem AllUntouched.setObject {site : TierSite} (untouched : site.AllUntouched) {name : String}
    {s : TenantQuotaDO.State} (object : Untouched name s) :
    (site.setObject name s).AllUntouched := by
  intro other
  by_cases same : other = name
  · subst same
    simpa [TierSite.setObject] using object
  · simpa [TierSite.setObject, Function.update_of_ne same] using untouched other

omit [Edge] in
/-- A request to a tenant that has a name is answered on the builder's limits. -/
theorem AllUntouched.answer {site : TierSite} (untouched : site.AllUntouched)
    (transport : Transport) (ask : AdmitRequest) (loadedAt now persistedAt : Int) :
    (isBlank ask.record.tenantId = false → ∃ result,
        (site.answer transport ask loadedAt now persistedAt).1 = .ok result ∧
          result.tier = .builder) ∧
      (isBlank ask.record.tenantId = true → ∃ e,
        (site.answer transport ask loadedAt now persistedAt).1 = .error e) ∧
      (site.answer transport ask loadedAt now persistedAt).2.AllUntouched := by
  cases named : isBlank ask.record.tenantId with
  | true =>
    have refused : TenantQuotaDO.create ask.record.tenantId {} =
        .error { message := "TenantQuotaDO requires a non-empty tenantId" } := by
      simp [TenantQuotaDO.create, named]
    simp only [TierSite.answer, refused]
    exact ⟨nofun, fun _ => ⟨_, rfl⟩, untouched⟩
  | false =>
    obtain ⟨answered, object⟩ := (untouched ask.record.tenantId).consumeQuota
      (tenantQuota ask.record.tenantId) (consumeRequest transport ask) rfl rfl loadedAt now
      persistedAt
    simp only [TierSite.answer, create_tenantQuota named]
    exact ⟨fun _ => answered, nofun, untouched.setObject object⟩

theorem AllUntouched.step {site : TierSite} (untouched : site.AllUntouched) (op : Op) :
    (site.step env op).AllUntouched := by
  cases op with
  | syncSession body entropy => exact untouched
  | githubCallback code profile entropy => exact untouched
  | overrideTier targetTenantId newTier => exact untouched
  | request transport ask loadedAt now persistedAt =>
    exact (untouched.answer transport ask loadedAt now persistedAt).2.2
  | clearMemoryCache name =>
    obtain ⟨tenantId, tier, stored⟩ := untouched name
    exact untouched.setObject ⟨tenantId, tier, stored⟩
  | restart name => exact untouched.setObject (Untouched.instantiate (untouched name).stored)

omit [Edge] in
/-- An untouched object enforces the tier on record just when that is the builder's. -/
theorem AllUntouched.enforces_iff {site : TierSite} (untouched : site.AllUntouched) (op : Op) :
    site.Enforces op ↔ site.RecordsBuilder op := by
  cases op with
  | request transport ask loadedAt now persistedAt =>
    obtain ⟨answered, refused, -⟩ := untouched.answer transport ask loadedAt now persistedAt
    constructor
    · intro enforces named user recorded
      obtain ⟨result, eq, tier⟩ := answered named
      rw [enforces result eq user recorded, tier]
      rfl
    · intro records result eq user recorded
      cases named : isBlank ask.record.tenantId with
      | true =>
        obtain ⟨e, failed⟩ := refused named
        rw [failed] at eq
        cases eq
      | false =>
        obtain ⟨result', eq', tier⟩ := answered named
        rw [eq', Except.ok.injEq] at eq
        rw [records named user recorded, ← eq, tier]
        rfl
  | _ => exact Iff.rfl

/-- Every request of a run is held to the tier on record just when each finds the builder's
tier on record. -/
theorem tier_enforced_iff (db : Database) (ops : List Op) :
    Transition.Guarded (step env) Enforces (start db) ops ↔
      Transition.Guarded (step env) RecordsBuilder (start db) ops :=
  Transition.guarded_congr (fun _ op untouched => untouched.step env op)
    (fun _ op untouched => untouched.enforces_iff op) (allUntouched_start db) ops

omit [Edge] in
/-- The administration raises `acme` to the ultra tier, and its next request is held to the
limits of a builder. -/
theorem tier_not_enforced :
    ¬∀ (edge : Edge) (env : WorkerEnv) (db : Database) (ops : List Op),
      Transition.Guarded (@step edge env) Enforces (start db) ops := by
  intro enforced
  let raised := @step plainEdge ⟨none, true, none⟩ (start ⟨.empty, .empty⟩)
    (.overrideTier "acme" (some "ultra"))
  have held : raised.Enforces (.request .rpc (acmeAsk 60) 1 1 1) :=
    (enforced plainEdge ⟨none, true, none⟩ ⟨.empty, .empty⟩
      [.overrideTier "acme" (some "ultra"), .request .rpc (acmeAsk 60) 1 1 1]).2.1
  have untouched : raised.AllUntouched := allUntouched_start ⟨.empty, .empty⟩
  have builder := (untouched.enforces_iff _).mp held (by decide)
  have ultra : (raised.db.users.get? "acme").map UserRow.tier = some "ultra" := by decide
  obtain ⟨user, recorded, tier⟩ := Option.map_eq_some_iff.mp ultra
  rw [builder user recorded] at tier
  exact absurd tier (by decide)

end TierSite

end KeyCollective
