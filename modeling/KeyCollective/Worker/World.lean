import KeyCollective.Pool.Held
import KeyCollective.Worker.Credentials

/-!
# The tenants' pools and the table

Every tenant has a pool of its own, and all share the table and the resolver's cache.
A request reaches a pool under its tenant's name, and the rows the pool is answered with
when it loads itself are those the table has for that tenant.
-/

namespace KeyCollective

open KeyPool

/-- The namespace of pools: one object per tenant name, whose id is a digest of it. -/
structure Platform where
  idString : String → String
  idString_ne : ∀ tenantId, idString tenantId ≠ tenantId
  circuitBreaker : CircuitBreaker
  rateLimiter : RateLimiter

def Platform.pool (platform : Platform) (tenantId : String) : KeyPool where
  idString := platform.idString tenantId
  resolvedTenant := tenantId
  circuitBreaker := platform.circuitBreaker
  rateLimiter := platform.rateLimiter

structure World where
  pools : String → State
  apiKeys : ApiKeys
  cache : DecryptedKeyCache

/-- What a tenant asks, and what happens beside: the approval of the community's keys
under observation, and the eviction of a pool. -/
inductive WorkerRequest where
  | createKey (tenantId : String) (headerTenant : Option String) (body : PostKeyBody)
      (entropy : Entropy)
  | postKeys (tenantId : String) (body : PostedKeys)
  | putKeys (tenantId : String) (keys : Option (List EncryptedKey))
  | poolMode (tenantId keyId : String) (frozen : Bool) (poolType : Option String)
  | chat (tenantId provider : String) (now : Int) (draw : Nat)
  | approveAll
  | evictPool (tenantId : String)

namespace World

variable (platform : Platform)

def initial : World where
  pools tenantId := (platform.pool tenantId).start
  apiKeys := .empty
  cache := fun _ => none

def setPool (world : World) (tenantId : String) (st : State) : World :=
  { world with pools := Function.update world.pools tenantId st }

/-- The rows the tenant's pool is answered with when it loads itself. -/
def rowsOf (world : World) (tenantId : String) : Option (List KeyRow) :=
  some (world.apiKeys.loadQuery
    ((platform.pool tenantId).restoreTenant (world.pools tenantId)).tenantId)

/-- A call forwarded to the tenant's pool, after the check of its tenant header. -/
def forward (world : World) (tenantId : String) (call : State → State) : World :=
  match (platform.pool tenantId).assertTenant (world.pools tenantId) (some tenantId) none with
  | (.error _, st) => world.setPool tenantId st
  | (.ok (), st) => world.setPool tenantId (call st)

def approve (row : ApiKeyRow) : ApiKeyRow :=
  if row.poolType = .community ∧ row.communityRoutingStatus = some .observation then
    { row with communityRoutingStatus := some .active }
  else row

theorem approve_id (row : ApiKeyRow) : (approve row).id = row.id := by
  unfold approve
  split <;> rfl

section Requests

variable [Host]

/-- A key of the tenant's pool, if it gives one out, and the plaintext the resolver makes
of it. -/
def dispatch (world : World) (tenantId provider : String) (now : Int) (draw : Nat) :
    Option (String × Plaintext) × World :=
  match (platform.pool tenantId).getKey (world.pools tenantId) provider now draw
      (world.rowsOf platform tenantId) with
  | (.error _, st) => (none, world.setPool tenantId st)
  | (.ok keyId, st) =>
    let (plaintext, cache) := resolvePlaintextKey world.apiKeys world.cache keyId tenantId now
    (some (keyId, plaintext), { world.setPool tenantId st with cache })

def step (world : World) : WorkerRequest → World
  | .createKey tenantId headerTenant body entropy =>
    match handlePostKeys world.apiKeys tenantId headerTenant body entropy with
    | none => world
    | some row =>
      let world := { world with apiKeys := world.apiKeys.set row }
      world.forward platform row.tenantId fun st =>
        ((platform.pool row.tenantId).addKey st (poolKey row body.priority)
          (world.rowsOf platform row.tenantId)).2
  | .postKeys tenantId body =>
    world.forward platform tenantId fun st =>
      match body with
      | .batch keys =>
        ((platform.pool tenantId).addKeys st keys (world.rowsOf platform tenantId)).2
      | .single key => ((platform.pool tenantId).addKey st key (world.rowsOf platform tenantId)).2
      | .invalid => st
  | .putKeys tenantId keys =>
    world.forward platform tenantId fun st =>
      match keys with
      | some keys => ((platform.pool tenantId).setKeys st keys).2
      | none => st
  | .poolMode tenantId keyId frozen poolType =>
    match handlePoolMode world.apiKeys tenantId keyId frozen poolType with
    | some apiKeys => { world with apiKeys, cache := fun _ => none }
    | none => world
  | .chat tenantId provider now draw => (world.dispatch platform tenantId provider now draw).2
  | .approveAll => { world with apiKeys := world.apiKeys.map approve approve_id }
  | .evictPool tenantId => world.setPool tenantId (clearMemoryCache (world.pools tenantId))

end Requests

end World

/-! ## The ids the pools hold -/

/-- A pool of the tenant's that loads itself loads the row. -/
def ApiKeyRow.Offered (row : ApiKeyRow) (tenantId : String) : Prop :=
  row.status = "Healthy" ∧ (row.tenantId = tenantId ∨
    row.poolType = .community ∧ row.communityRoutingStatus = some .active)

namespace World

variable {platform : Platform} {world : World} {P : String → String → Prop}

theorem own (tenantId : String) :
    (platform.pool tenantId).idString ≠ (platform.pool tenantId).resolvedTenant :=
  platform.idString_ne tenantId

/-- Every pool is its tenant's, and holds only ids that are allowed there. -/
def Allows (platform : Platform) (P : String → String → Prop) (world : World) : Prop :=
  ∀ tenantId, (platform.pool tenantId).Within (P tenantId) (world.pools tenantId)

/-- The rows of a load are allowed when the rows offered are. -/
theorem rowsOf_allowed {tenantId : String}
    (within : (platform.pool tenantId).Within (P tenantId) (world.pools tenantId))
    (offered : ∀ row ∈ world.apiKeys.values, row.Offered tenantId → P tenantId row.id) :
    ∀ rows, world.rowsOf platform tenantId = some rows → ∀ row ∈ rows, P tenantId row.id := by
  rintro _ ⟨⟩ loaded mem
  have other : (world.pools tenantId).tenantId ≠ (platform.pool tenantId).idString :=
    fun same => own tenantId (same.symm.trans within.tenant)
  have bound : ((platform.pool tenantId).restoreTenant (world.pools tenantId)).tenantId =
      tenantId := by
    rw [restoreTenant, if_neg fun both => other both.2]
    exact within.tenant
  rw [bound] at mem
  obtain ⟨stored, kept, rfl⟩ := List.mem_map.mp mem
  obtain ⟨mem, query⟩ := List.mem_filter.mp kept
  simp only [decide_eq_true_eq] at query
  exact offered stored mem query

theorem setPool_allows (allows : Allows platform P world) {tenantId : String} {st : State}
    (within : (platform.pool tenantId).Within (P tenantId) st) :
    Allows platform P (world.setPool tenantId st) := by
  intro other
  by_cases same : other = tenantId
  · subst same
    simp only [setPool, Function.update_self]
    exact within
  · simp only [setPool, Function.update_of_ne same]
    exact allows other

/-- A forwarded call meets a pool that is its tenant's, and is made. -/
theorem forward_eq {tenantId : String}
    (within : (platform.pool tenantId).Within (P tenantId) (world.pools tenantId))
    (call : State → State) :
    world.forward platform tenantId call =
      world.setPool tenantId (call (world.pools tenantId)) := by
  have tenant : (world.pools tenantId).tenantId = tenantId := within.tenant
  have other : (world.pools tenantId).tenantId ≠ (platform.pool tenantId).idString :=
    fun same => own tenantId (same.symm.trans within.tenant)
  unfold forward
  rcases assertTenant_bound other (some tenantId) none with ⟨asserted, -⟩ | ⟨-, -, differs⟩
  · simp only [asserted]
  · exact absurd (congrArg some tenant.symm) differs

/-- Calls of a tenant's pool, with the table as it is. -/
theorem closed_pool (allows : Allows platform P world)
    (offered : ∀ row ∈ world.apiKeys.values, ∀ tenantId, row.Offered tenantId →
      P tenantId row.id) (tenantId : String) :
    (platform.pool tenantId).Closed ((platform.pool tenantId).Within (P tenantId))
      (fun _ => True) (fun _ => True) (fun key => P tenantId key.id)
      (world.rowsOf platform tenantId) :=
  within_closed (own tenantId)
    (rowsOf_allowed (allows tenantId) fun row mem => offered row mem tenantId)

theorem forward_allows (allows : Allows platform P world) {tenantId : String}
    {call : State → State}
    (kept : (platform.pool tenantId).Within (P tenantId) (call (world.pools tenantId))) :
    Allows platform P (world.forward platform tenantId call) := by
  rw [forward_eq (allows tenantId)]
  exact setPool_allows allows kept

@[simp] theorem forward_apiKeys (world : World) (tenantId : String) (call : State → State) :
    (world.forward platform tenantId call).apiKeys = world.apiKeys := by
  unfold forward
  split <;> rfl

end World

end KeyCollective
