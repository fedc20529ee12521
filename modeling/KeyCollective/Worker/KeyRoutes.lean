import KeyCollective.Worker.World

/-!
# The routes that write keys

Beside the tenants' requests, the dashboard deletes keys and the administrator switches,
deletes and purges them: all write the table, and a delete through the dashboard is
forwarded to one pool. Other calls reach a pool as they are.
-/

namespace KeyCollective

open KeyPool

/-- `UPDATE api_keys SET … WHERE …`. -/
def ApiKeys.update (apiKeys : ApiKeys) (named : ApiKeyRow → Bool) (set : ApiKeyRow → ApiKeyRow)
    (same : ∀ row, (set row).id = row.id) : ApiKeys :=
  apiKeys.map (fun row => if named row then set row else row) fun row => by
    split
    · exact same row
    · rfl

theorem ApiKeys.mem_update {apiKeys : ApiKeys} {named : ApiKeyRow → Bool}
    {set : ApiKeyRow → ApiKeyRow} (same : ∀ row, (set row).id = row.id) {row : ApiKeyRow}
    (mem : row ∈ (apiKeys.update named set same).values) :
    ∃ old ∈ apiKeys.values, row = old ∧ named old = false ∨ row = set old ∧ named old = true := by
  obtain ⟨old, kept, rfl⟩ := List.mem_map.mp mem
  refine ⟨old, kept, ?_⟩
  cases hit : named old with
  | true => exact Or.inr ⟨if_pos rfl, rfl⟩
  | false => exact Or.inl ⟨if_neg Bool.false_ne_true, rfl⟩

/-- The table after a delete through the dashboard; `none` when the route refuses it. -/
def handleDeleteKey (apiKeys : ApiKeys) (tenantId keyId : String) : Option ApiKeys :=
  if keyId = "" then none
  else if tenantId = "" ∨ tenantId = "anonymous" ∨ tenantId = "guest" then none
  else if tenantId = "admin" then some (apiKeys.delete keyId)
  else some (apiKeys.filter fun row => ¬(row.id = keyId ∧ row.tenantId = tenantId))

/-- `body.status || 'ACTIVE'`. -/
def targetStatus (status : Option String) : String := (status.filter (· ≠ "")).getD "ACTIVE"

/-- The administrator's switch of a routing status. Any other status is answered with
success and changes nothing. -/
def handleRoutingStatus (apiKeys : ApiKeys) (keyId : String) (status : Option String) : ApiKeys :=
  if targetStatus status = "ACTIVE" then
    apiKeys.update (·.id = keyId)
      (fun row => { row with communityRoutingStatus := some .active, status := "Healthy" })
      fun _ => rfl
  else if targetStatus status = "QUARANTINED" then
    apiKeys.update (·.id = keyId)
      (fun row => { row with
        communityRoutingStatus := some .quarantined
        status := "quarantined" })
      fun _ => rfl
  else if targetStatus status = "OBSERVATION" then
    apiKeys.update (·.id = keyId)
      (fun row => { row with communityRoutingStatus := some .observation, status := "Healthy" })
      fun _ => rfl
  else apiKeys

/-- The administrator's switch of a pool leaves the routing status as it is. -/
def handleAdminPoolMode (apiKeys : ApiKeys) (keyId : String) (poolType : Option String) :
    ApiKeys :=
  let targetPool : PoolType := if poolType = some "PRIVATE" then .private else .community
  apiKeys.update (·.id = keyId) (fun row => { row with poolType := targetPool }) fun _ => rfl

def handlePoolManage (apiKeys : ApiKeys) (action : Option String) : ApiKeys :=
  if action = some "ACTIVATE_ALL_OBSERVATION" then apiKeys.map World.approve World.approve_id
  else if action = some "PURGE_QUARANTINED" then
    apiKeys.filter fun row =>
      ¬(row.communityRoutingStatus = some .quarantined ∨ row.status = "invalid")
  else if action = some "PURGE_ALL_KEYS" then .empty
  else apiKeys

/-- A report of abuse, of the rows it names by id, prefix or hash. -/
def handleReportKeyAbuse (apiKeys : ApiKeys) (named : ApiKeyRow → Bool) : ApiKeys :=
  apiKeys.update named
    (fun row => { row with status := "invalid", communityRoutingStatus := some .revoked })
    fun _ => rfl

/-- What is asked of the worker, of its administration and, forwarded, of the tenants' pools;
and the construction of a new instance of a pool. -/
inductive KeyRequest where
  | worker (request : WorkerRequest)
  | rpc (tenantId : String) (route : Route) (now : Int)
  | newInstance (tenantId : String)
  /-- `rest` follows `/api/keys/` in the path. -/
  | deleteKey (tenantId : String) (headerTenant : Option String) (rest : String)
  | adminDeleteKey (keyId : String)
  | adminRoutingStatus (keyId : String) (status : Option String)
  | adminPoolMode (keyId : String) (poolType : Option String)
  | poolManage (action : Option String)
  | reportAbuse (named : ApiKeyRow → Bool)

namespace World

variable [Host] (platform : Platform)

def serve (world : World) : KeyRequest → World
  | .worker request => world.step platform request
  | .rpc tenantId route now =>
    world.setPool tenantId ((platform.pool tenantId).handleKeyPoolRpc (world.pools tenantId)
      { headerTenant := some tenantId, route, now, db := world.rowsOf platform tenantId }).2
  | .newInstance tenantId =>
    world.setPool tenantId ((platform.pool tenantId).construct (world.pools tenantId))
  | .deleteKey tenantId headerTenant rest =>
    let keyId := trim rest
    match handleDeleteKey world.apiKeys tenantId keyId with
    | none => world
    | some apiKeys =>
      let world := { world with apiKeys }
      let targetTenantId := targetTenant tenantId headerTenant
      world.forward platform targetTenantId fun st =>
        ((platform.pool targetTenantId).removeKey st (encodeURIComponent keyId)
          (world.rowsOf platform targetTenantId)).2
  | .adminDeleteKey keyId => { world with apiKeys := world.apiKeys.delete keyId }
  | .adminRoutingStatus keyId status =>
    { world with apiKeys := handleRoutingStatus world.apiKeys keyId status }
  | .adminPoolMode keyId poolType =>
    { world with apiKeys := handleAdminPoolMode world.apiKeys keyId poolType }
  | .poolManage action => { world with apiKeys := handlePoolManage world.apiKeys action }
  | .reportAbuse named => { world with apiKeys := handleReportKeyAbuse world.apiKeys named }

end World

/-! ## The ids a request leaves in the pools -/

/-- The request posts the id to the tenant's pool. -/
def KeyRequest.Posts [Host] (world : World) (id : String) (tenantId : String) :
    KeyRequest → Prop
  | .worker (.createKey caller headerTenant body entropy) => ∃ row,
    handlePostKeys world.apiKeys caller headerTenant body entropy = some row ∧
      row.tenantId = tenantId ∧ row.id = id
  | .worker (.postKeys caller body) => caller = tenantId ∧ ∃ key ∈ body.list, key.id = id
  | .worker (.putKeys caller keys) => caller = tenantId ∧ ∃ key ∈ keys.getD [], key.id = id
  | .rpc caller route _ => caller = tenantId ∧ ∃ key ∈ route.posted, key.id = id
  | _ => False

namespace World

variable [Host] {platform : Platform} {world : World} {P : String → String → Prop}

theorem step_allows (request : WorkerRequest) (allows : Allows platform P world)
    (posts : ∀ tenantId id, (KeyRequest.worker request).Posts world id tenantId → P tenantId id)
    (offered : ∀ row ∈ (world.step platform request).apiKeys.values, ∀ tenantId,
      row.Offered tenantId → P tenantId row.id) :
    Allows platform P (world.step platform request) := by
  cases request with
  | createKey caller headerTenant body entropy =>
    simp only [step] at offered ⊢
    cases created : handlePostKeys world.apiKeys caller headerTenant body entropy with
    | none => exact allows
    | some row =>
      simp only [created, forward_apiKeys] at offered ⊢
      have inserted : Allows platform P { world with apiKeys := world.apiKeys.set row } := allows
      have allowed : P row.tenantId row.id := posts _ _ ⟨row, created, rfl, rfl⟩
      have closed := closed_pool inserted offered row.tenantId
      exact forward_allows inserted (closed.addKey_sat allowed (inserted row.tenantId)).state
  | postKeys tenantId body =>
    simp only [step, forward_apiKeys] at offered ⊢
    have closed := closed_pool allows offered tenantId
    have allowed : ∀ key ∈ body.list, P tenantId key.id := fun key mem =>
      posts _ _ ⟨rfl, key, mem, rfl⟩
    apply forward_allows allows
    cases body with
    | batch keys => exact (closed.addKeys_sat allowed (allows tenantId)).state
    | single key =>
      exact (closed.addKey_sat (allowed key (List.mem_singleton.mpr rfl)) (allows tenantId)).state
    | invalid => exact allows tenantId
  | putKeys tenantId keys =>
    simp only [step, forward_apiKeys] at offered ⊢
    have closed := closed_pool allows offered tenantId
    apply forward_allows allows
    cases keys with
    | none => exact allows tenantId
    | some keys =>
      refine (closed.setKeys_sat (fun key mem => ?_) (allows tenantId)).state
      exact posts _ _ ⟨rfl, key, mem, rfl⟩
  | poolMode tenantId keyId frozen poolType =>
    simp only [step]
    split
    · exact allows
    · exact allows
  | chat tenantId provider now draw =>
    simp only [step] at offered ⊢
    have table : (world.dispatch platform tenantId provider now draw).2.apiKeys =
        world.apiKeys := by
      unfold dispatch
      split <;> rfl
    rw [table] at offered
    have closed := closed_pool allows offered tenantId
    have kept := (closed.getKey_sat provider now draw (allows tenantId)).state
    unfold dispatch
    revert kept
    rcases (platform.pool tenantId).getKey (world.pools tenantId) provider now draw
      (world.rowsOf platform tenantId) with ⟨refused | id, st⟩
    · exact fun kept => setPool_allows allows kept
    · exact fun kept => setPool_allows allows kept
  | approveAll => exact allows
  | evictPool tenantId => exact setPool_allows allows (clearMemoryCache_within (allows tenantId))

/-- A request leaves allowed ids in the pools, when those it posts and the rows of the table
it leaves are. -/
theorem serve_allows (request : KeyRequest) (allows : Allows platform P world)
    (posts : ∀ tenantId id, request.Posts world id tenantId → P tenantId id)
    (offered : ∀ row ∈ (world.serve platform request).apiKeys.values, ∀ tenantId,
      row.Offered tenantId → P tenantId row.id) :
    Allows platform P (world.serve platform request) := by
  cases request with
  | worker request => exact step_allows request allows posts offered
  | rpc tenantId route now =>
    have closed := closed_pool allows offered tenantId
    refine setPool_allows allows (handleKeyPoolRpc_sat closed trivial trivial ?_
      (allows tenantId)).state
    exact fun key mem => posts _ _ ⟨rfl, key, mem, rfl⟩
  | newInstance tenantId => exact setPool_allows allows (construct_within (allows tenantId))
  | deleteKey caller headerTenant rest =>
    simp only [serve] at offered ⊢
    cases deleted : handleDeleteKey world.apiKeys caller (trim rest) with
    | none => exact allows
    | some apiKeys =>
      simp only [deleted, forward_apiKeys] at offered ⊢
      have written : Allows platform P { world with apiKeys } := allows
      have closed := closed_pool written offered (targetTenant caller headerTenant)
      exact forward_allows written (closed.removeKey_sat _ (written _)).state
  | adminDeleteKey | adminRoutingStatus | adminPoolMode | poolManage | reportAbuse =>
    exact allows

end World

end KeyCollective
