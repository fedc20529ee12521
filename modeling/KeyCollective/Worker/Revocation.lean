import KeyCollective.Pool.Overlap
import KeyCollective.Worker.Isolation
import KeyCollective.Worker.KeyRoutes

/-!
# Revoked keys

The dashboard and the administrator withdraw a key by writing the shared table; a delete
through the dashboard also reaches one pool. The pools that have loaded the key keep it, in
memory and in their own storage.
-/

namespace KeyCollective

open KeyPool

/-! ## What is withdrawn -/

/-- Whom a key is withdrawn from. -/
inductive Bar where
  | everyone
  | allBut (owner : String)

namespace Bar

def bars (tenantId : String) : Bar → Prop
  | everyone => True
  | allBut owner => tenantId ≠ owner

/-- No tenant the key is withdrawn from loads the row. -/
def keeps (row : ApiKeyRow) : Bar → Prop
  | everyone => row.status ≠ "Healthy"
  | allBut owner => row.tenantId = owner ∧ row.poolType = .private

end Bar

/-- The key is the tenant's row, or no row and in the tenant's pool. -/
def World.Owns (world : World) (tenantId id : String) : Prop :=
  match world.apiKeys.get? id with
  | some row => row.tenantId = tenantId
  | none => Holding (world.pools tenantId) id

/-- A removal from the pool also leaves the persisted list without the id. -/
def KeyPool.Deletable (pool : KeyPool) (st : State) (id : String) : Prop :=
  if st.isLoaded then
    id ∈ storedIds st → id ∈ st.keysMap.keys ∨ id ∈ st.selector.keysMap.keys
  else pool.Restorable st

/-- The status makes a row healthy. -/
def reinstates (status : Option String) : Bool :=
  targetStatus status ∈ ["ACTIVE", "OBSERVATION"]

namespace KeyRequest

variable [Host] (platform : Platform) (world : World) (id : String) (bar : Bar)

/-- The request is answered with success and withdraws the key. -/
def Bars : KeyRequest → Prop
  | .deleteKey tenantId _ rest =>
    trim rest = id ∧ (handleDeleteKey world.apiKeys tenantId id).isSome = true ∧
      (tenantId = "admin" ∨ world.Owns tenantId id) ∧ bar = .everyone
  | .adminDeleteKey keyId => keyId = id ∧ bar = .everyone
  | .adminRoutingStatus keyId status =>
    keyId = id ∧ (status = some "QUARANTINED" ∨ status = some "REVOKED") ∧ bar = .everyone
  | .poolManage action =>
    world.apiKeys.has id = true ∧ (handlePoolManage world.apiKeys action).has id = false ∧
      bar = .everyone
  | .adminPoolMode keyId poolType =>
    keyId = id ∧ poolType = some "PRIVATE" ∧
      ∃ row, world.apiKeys.get? id = some row ∧ row.poolType = .community ∧
        bar = .allBut row.tenantId
  | .worker (.poolMode tenantId keyId frozen poolType) =>
    keyId = id ∧ (handlePoolMode world.apiKeys tenantId id frozen poolType).isSome = true ∧
      parsePoolType poolType = some .private ∧
        ∃ row switched, world.apiKeys.get? id = some row ∧ row.poolType = .community ∧
          switchRow tenantId .private row = some switched ∧ bar = .allBut switched.tenantId
  | _ => False

/-- The pool the request removes the key from has it no more. -/
def Drops (tenantId : String) : KeyRequest → Prop
  | .deleteKey caller headerTenant _ =>
    tenantId = targetTenant caller headerTenant ∧ encodeURIComponent id = id ∧
      (platform.pool tenantId).Deletable (world.pools tenantId) id
  | _ => False

/-- No pool the key is withdrawn from holds it but the one it is removed from. A switch to
`REVOKED`, which writes nothing, finds no healthy row. -/
def Clears (request : KeyRequest) : Prop :=
  (∀ tenantId, bar.bars tenantId → Holding (world.pools tenantId) id →
      request.Drops platform world id tenantId) ∧
    (request = .adminRoutingStatus id (some "REVOKED") →
      ∀ row, world.apiKeys.get? id = some row → row.status ≠ "Healthy")

/-- The request does not hand the key out again. -/
def Respects : KeyRequest → Prop
  | .worker (.createKey tenantId headerTenant body entropy) => ∀ row,
    handlePostKeys world.apiKeys tenantId headerTenant body entropy = some row → row.id ≠ id
  | .worker (.postKeys tenantId body) => bar.bars tenantId → ∀ key ∈ body.list, key.id ≠ id
  | .worker (.putKeys tenantId keys) => bar.bars tenantId → ∀ key ∈ keys.getD [], key.id ≠ id
  | .rpc tenantId route _ => bar.bars tenantId → ∀ key ∈ route.posted, key.id ≠ id
  | .worker (.poolMode tenantId keyId frozen poolType) =>
    keyId = id → (handlePoolMode world.apiKeys tenantId id frozen poolType).isSome = true →
      ∀ owner, bar = .allBut owner → ∀ row type switched, world.apiKeys.get? id = some row →
        parsePoolType poolType = some type → switchRow tenantId type row = some switched →
          type = .private ∧ switched.tenantId = owner
  | .adminPoolMode keyId poolType =>
    keyId = id → ∀ owner, bar = .allBut owner → poolType = some "PRIVATE"
  | .adminRoutingStatus keyId status =>
    keyId = id → bar = .everyone → world.apiKeys.has id = true → reinstates status = false
  | _ => True

end KeyRequest

/-! ## The table -/

namespace World

variable {platform : Platform} {world : World}

/-- The rows of the id in the table are kept from whom it is withdrawn from. -/
def Withheld (id : String) (bar : Bar) (apiKeys : ApiKeys) : Prop :=
  ∀ row ∈ apiKeys.values, row.id = id → bar.keeps row

/-- A row that is withheld is loaded by no pool the key is withdrawn from. -/
theorem not_bars_of_offered {bar : Bar} {row : ApiKeyRow} {tenantId : String}
    (keeps : bar.keeps row) (offered : row.Offered tenantId) : ¬bar.bars tenantId := by
  cases bar with
  | everyone => exact absurd offered.1 keeps
  | allBut owner =>
    obtain ⟨owned, type⟩ := keeps
    rcases offered.2 with mine | ⟨community, -⟩
    · exact fun barred => barred (mine.symm.trans owned)
    · cases type.symm.trans community

theorem withheld_update {id : String} {bar : Bar} {apiKeys : ApiKeys} {named : ApiKeyRow → Bool}
    {set : ApiKeyRow → ApiKeyRow} {same : ∀ row, (set row).id = row.id}
    (withheld : Withheld id bar apiKeys)
    (kept : ∀ row ∈ apiKeys.values, named row = true → row.id = id → bar.keeps row →
      bar.keeps (set row)) : Withheld id bar (apiKeys.update named set same) := by
  intro row mem is
  obtain ⟨old, present, ⟨rfl, -⟩ | ⟨rfl, hit⟩⟩ := ApiKeys.mem_update _ mem
  · exact withheld row present is
  · have is : old.id = id := (same old).symm.trans is
    exact kept old present hit is (withheld old present is)

theorem withheld_of_update {id : String} {bar : Bar} {apiKeys : ApiKeys}
    {set : ApiKeyRow → ApiKeyRow} {same : ∀ row, (set row).id = row.id}
    (kept : ∀ row ∈ apiKeys.values, row.id = id → bar.keeps (set row)) :
    Withheld id bar (apiKeys.update (·.id = id) set same) := by
  intro row mem is
  obtain ⟨old, present, ⟨rfl, missed⟩ | ⟨rfl, hit⟩⟩ := ApiKeys.mem_update _ mem
  · exact absurd is (of_decide_eq_false missed)
  · exact kept old present (of_decide_eq_true hit)

theorem withheld_filter {id : String} {bar : Bar} {apiKeys : ApiKeys} {keep : ApiKeyRow → Bool}
    (withheld : Withheld id bar apiKeys) : Withheld id bar (apiKeys.filter keep) :=
  fun row mem => withheld row (List.mem_filter.mp mem).1

theorem withheld_approve {id : String} {bar : Bar} {apiKeys : ApiKeys}
    (withheld : Withheld id bar apiKeys) :
    Withheld id bar (apiKeys.map approve approve_id) := by
  intro row mem is
  obtain ⟨old, present, rfl⟩ := List.mem_map.mp mem
  have keeps := withheld old present ((approve_id old).symm.trans is)
  have status : (approve old).status = old.status := by
    unfold approve
    split <;> rfl
  obtain ⟨tenant, type, -⟩ := approve_row old
  cases bar with
  | everyone => exact fun healthy => keeps (status.symm.trans healthy)
  | allBut owner => exact ⟨tenant.trans keeps.1, type.trans keeps.2⟩

theorem withheld_routingStatus {id keyId : String} {bar : Bar} {apiKeys : ApiKeys}
    {status : Option String} (withheld : Withheld id bar apiKeys)
    (respects : keyId = id → bar = .everyone → apiKeys.has id = true → reinstates status = false) :
    Withheld id bar (handleRoutingStatus apiKeys keyId status) := by
  have reinstated : ∀ row ∈ apiKeys.values, decide (row.id = keyId) = true → row.id = id →
      reinstates status = true → bar ≠ .everyone := by
    intro row mem named is reinstates everyone
    have keyed : keyId = id := (of_decide_eq_true named).symm.trans is
    have present : apiKeys.has id = true :=
      (IndexedMap.has_iff _ _).mpr (is ▸ IndexedMap.key_mem mem)
    exact Bool.false_ne_true ((respects keyed everyone present).symm.trans reinstates)
  have kept : ∀ (row : ApiKeyRow) (routing : CommunityRoutingStatus) (healthy : String),
      bar ≠ .everyone → bar.keeps row →
        bar.keeps { row with communityRoutingStatus := some routing, status := healthy } := by
    intro row routing healthy partly keeps
    cases bar with
    | everyone => exact absurd rfl partly
    | allBut owner => exact keeps
  unfold handleRoutingStatus
  split
  · rename_i active
    refine withheld_update withheld fun row mem named is keeps => kept row _ _ ?_ keeps
    exact reinstated row mem named is (by simp [reinstates, active])
  split
  · refine withheld_update withheld fun row mem named is keeps => ?_
    cases bar with
    | everyone =>
      have differs : "quarantined" ≠ "Healthy" := by decide
      exact differs
    | allBut owner => exact keeps
  split
  · rename_i observed
    refine withheld_update withheld fun row mem named is keeps => kept row _ _ ?_ keeps
    exact reinstated row mem named is (by simp [reinstates, observed])
  · exact withheld

theorem withheld_adminPoolMode {id keyId : String} {bar : Bar} {apiKeys : ApiKeys}
    {poolType : Option String} (withheld : Withheld id bar apiKeys)
    (respects : keyId = id → ∀ owner, bar = .allBut owner → poolType = some "PRIVATE") :
    Withheld id bar (handleAdminPoolMode apiKeys keyId poolType) := by
  unfold handleAdminPoolMode
  refine withheld_update withheld fun row _ named is keeps => ?_
  have keyed : keyId = id := (of_decide_eq_true named).symm.trans is
  cases bar with
  | everyone => exact keeps
  | allBut owner => exact ⟨keeps.1, if_pos (respects keyed owner rfl)⟩

theorem withheld_poolManage {id : String} {bar : Bar} {apiKeys : ApiKeys}
    (withheld : Withheld id bar apiKeys) (action : Option String) :
    Withheld id bar (handlePoolManage apiKeys action) := by
  unfold handlePoolManage
  split
  · exact withheld_approve withheld
  split
  · exact withheld_filter withheld
  split
  · exact fun row mem => absurd mem List.not_mem_nil
  · exact withheld

theorem withheld_reportKeyAbuse {id : String} {bar : Bar} {apiKeys : ApiKeys}
    (withheld : Withheld id bar apiKeys) (named : ApiKeyRow → Bool) :
    Withheld id bar (handleReportKeyAbuse apiKeys named) := by
  refine withheld_update withheld fun row _ _ _ keeps => ?_
  cases bar with
  | everyone =>
    have differs : "invalid" ≠ "Healthy" := by decide
    exact differs
  | allBut owner => exact keeps

theorem withheld_deleteKey {id : String} {bar : Bar} {apiKeys deleted : ApiKeys}
    {tenantId keyId : String} (withheld : Withheld id bar apiKeys)
    (done : handleDeleteKey apiKeys tenantId keyId = some deleted) :
    Withheld id bar deleted := by
  unfold handleDeleteKey at done
  split_ifs at done
  · obtain rfl := Option.some.inj done
    exact withheld_filter withheld
  · obtain rfl := Option.some.inj done
    exact withheld_filter withheld

section Tables

variable [Host]

theorem withheld_poolMode {id : String} {bar : Bar} {apiKeys switchedKeys : ApiKeys}
    {tenantId keyId : String} {frozen : Bool} {poolType : Option String}
    (withheld : Withheld id bar apiKeys)
    (done : handlePoolMode apiKeys tenantId keyId frozen poolType = some switchedKeys)
    (respects : keyId = id → ∀ owner, bar = .allBut owner → ∀ row type switched,
      apiKeys.get? id = some row → parsePoolType poolType = some type →
        switchRow tenantId type row = some switched → type = .private ∧ switched.tenantId = owner) :
    Withheld id bar switchedKeys := by
  obtain ⟨type, parsed, ⟨-, rfl⟩ | ⟨row, switched, found, allowed, rfl⟩⟩ := handlePoolMode_some done
  · exact withheld
  obtain ⟨sameId, -, switchedType, -⟩ := switchRow_some allowed
  obtain ⟨present, named⟩ := IndexedMap.get?_some found
  intro other mem is
  rcases IndexedMap.mem_set mem with rfl | mem
  · have keyed : keyId = id := named.symm.trans (sameId.symm.trans is)
    subst keyed
    cases bar with
    | everyone =>
      have sick : row.status ≠ "Healthy" := withheld row present named
      rw [← switchRow_status allowed] at sick
      exact sick
    | allBut owner =>
      obtain ⟨turned, kept⟩ := respects rfl owner rfl row type other found parsed allowed
      exact ⟨kept, turned ▸ switchedType⟩
  · exact withheld other mem is

/-- A request that respects what is withheld leaves it withheld. -/
theorem serve_withheld {id : String} {bar : Bar} (request : KeyRequest)
    (withheld : Withheld id bar world.apiKeys) (respects : request.Respects world id bar) :
    Withheld id bar (world.serve platform request).apiKeys := by
  cases request with
  | worker request =>
    cases request with
    | createKey caller headerTenant body entropy =>
      simp only [serve, step]
      cases created : handlePostKeys world.apiKeys caller headerTenant body entropy with
      | none => exact withheld
      | some row =>
        simp only [forward_apiKeys]
        intro other mem is
        rcases IndexedMap.mem_set mem with rfl | mem
        · exact absurd is (respects _ created)
        · exact withheld other mem is
    | postKeys | putKeys =>
      simp only [serve, step, forward_apiKeys]
      exact withheld
    | poolMode tenantId keyId frozen poolType =>
      simp only [serve, step]
      cases switch : handlePoolMode world.apiKeys tenantId keyId frozen poolType with
      | none => exact withheld
      | some apiKeys =>
        apply withheld_poolMode withheld switch
        rintro rfl owner named row type switched
        exact respects rfl (by rw [switch]; rfl) owner named row type switched
    | chat tenantId provider now draw =>
      simp only [serve, step]
      unfold dispatch
      split
      · exact withheld
      · exact withheld
    | approveAll => exact withheld_approve withheld
    | evictPool => exact withheld
  | rpc | newInstance => exact withheld
  | deleteKey caller headerTenant rest =>
    simp only [serve]
    cases deleted : handleDeleteKey world.apiKeys caller (trim rest) with
    | none => exact withheld
    | some apiKeys =>
      simp only [forward_apiKeys]
      exact withheld_deleteKey withheld deleted
  | adminDeleteKey keyId => exact withheld_filter withheld
  | adminRoutingStatus keyId status => exact withheld_routingStatus withheld respects
  | adminPoolMode keyId poolType => exact withheld_adminPoolMode withheld respects
  | poolManage action => exact withheld_poolManage withheld action
  | reportAbuse named => exact withheld_reportKeyAbuse withheld named

omit [Host] in
/-- A delete that is answered with success, by the administrator or the row's owner, leaves
no row of the key. -/
theorem deleteKey_gone {apiKeys deleted : ApiKeys} {tenantId keyId : String}
    (done : handleDeleteKey apiKeys tenantId keyId = some deleted)
    (owned : tenantId = "admin" ∨ ∀ row, apiKeys.get? keyId = some row → row.tenantId = tenantId) :
    ∀ row ∈ deleted.values, row.id ≠ keyId := by
  unfold handleDeleteKey at done
  split_ifs at done with _ _ admin
  · obtain rfl := Option.some.inj done
    exact fun row mem => of_decide_eq_true (List.mem_filter.mp mem).2
  · obtain rfl := Option.some.inj done
    intro row mem named
    obtain ⟨mem, kept⟩ := List.mem_filter.mp mem
    have found := IndexedMap.get?_of_mem mem
    rw [named] at found
    exact absurd ⟨named, owned.resolve_left admin row found⟩ (of_decide_eq_true kept)

/-- A switch of a community key to private leaves its row its owner's and private. -/
theorem poolMode_private {apiKeys switchedKeys : ApiKeys} {tenantId keyId : String}
    {frozen : Bool} {poolType : Option String} {row switched : ApiKeyRow}
    (done : handlePoolMode apiKeys tenantId keyId frozen poolType = some switchedKeys)
    (parsed : parsePoolType poolType = some .private) (found : apiKeys.get? keyId = some row)
    (allowed : switchRow tenantId .private row = some switched) :
    Withheld keyId (.allBut switched.tenantId) switchedKeys := by
  obtain ⟨type, same, rest⟩ := handlePoolMode_some done
  obtain rfl : type = .private := Option.some.inj (same.symm.trans parsed)
  rcases rest with ⟨none, -⟩ | ⟨row', switched', found', allowed', rfl⟩
  · rw [found, Option.bind_some, allowed] at none
    cases none
  · obtain rfl := Option.some.inj (found.symm.trans found')
    obtain rfl := Option.some.inj (allowed.symm.trans allowed')
    obtain ⟨sameId, -, type, -⟩ := switchRow_some allowed
    obtain ⟨-, named⟩ := IndexedMap.get?_some found
    intro other mem is
    rcases IndexedMap.mem_set_other mem with rfl | ⟨-, differs⟩
    · exact ⟨rfl, type⟩
    · exact absurd (is.trans (named.symm.trans sameId.symm)) differs

/-- A request that withdraws a key leaves it withheld. -/
theorem bars_withheld {id : String} {bar : Bar} {request : KeyRequest}
    (bars : request.Bars world id bar) (clears : request.Clears platform world id bar) :
    Withheld id bar (world.serve platform request).apiKeys := by
  cases request with
  | worker request =>
    cases request with
    | poolMode tenantId keyId frozen poolType =>
      obtain ⟨rfl, done, parsed, row, switched, found, -, allowed, rfl⟩ := bars
      obtain ⟨apiKeys, switch⟩ := Option.isSome_iff_exists.mp done
      simp only [serve, step, switch]
      exact poolMode_private switch parsed found allowed
    | _ => exact bars.elim
  | deleteKey caller headerTenant rest =>
    obtain ⟨rfl, done, owns, rfl⟩ := bars
    obtain ⟨apiKeys, deletion⟩ := Option.isSome_iff_exists.mp done
    simp only [serve, deletion, forward_apiKeys]
    have gone := deleteKey_gone deletion (owns.imp_right fun owned row found => by
      rw [Owns, found] at owned
      exact owned)
    exact fun row mem is => absurd is (gone row mem)
  | adminDeleteKey keyId =>
    obtain ⟨rfl, rfl⟩ := bars
    exact fun row mem is => absurd is (of_decide_eq_true (List.mem_filter.mp mem).2)
  | adminRoutingStatus keyId status =>
    obtain ⟨rfl, rfl | rfl, rfl⟩ := bars
    · have differs : "quarantined" ≠ "Healthy" := by decide
      apply withheld_of_update
      · exact fun _ => rfl
      · exact fun _ _ _ => differs
    · intro row mem is
      have found := IndexedMap.get?_of_mem mem
      rw [is] at found
      exact clears.2 rfl row found
  | adminPoolMode keyId poolType =>
    obtain ⟨rfl, rfl, row, found, -, rfl⟩ := bars
    apply withheld_of_update
    · exact fun _ => rfl
    · intro other present named
      have same := IndexedMap.get?_of_mem present
      rw [named] at same
      obtain rfl := Option.some.inj (found.symm.trans same)
      exact ⟨rfl, rfl⟩
  | poolManage action =>
    obtain ⟨-, gone, rfl⟩ := bars
    rintro row mem rfl
    have present : (handlePoolManage world.apiKeys action).has row.id = true :=
      (IndexedMap.has_iff _ _).mpr (IndexedMap.key_mem mem)
    exact absurd (gone.symm.trans present) Bool.false_ne_true
  | rpc | newInstance | reportAbuse => exact bars.elim

end Tables

end World

/-! ## The pool a key is removed from -/

namespace KeyPool

variable {pool : KeyPool} {st : State} {id : String}

theorem fillRows_lists (listed : id ∈ storedIds st → id ∈ st.keysMap.keys)
    (db : Option (List KeyRow)) (kept : id ∈ storedIds (fillRows st db)) :
    id ∈ (fillRows st db).keysMap.keys := by
  obtain ⟨-, -, ids, stored⟩ := Loading.fillRows_spec st db
  rw [stored] at kept
  split at kept
  · exact (ids id).mpr (Or.inr (listed kept))
  · exact (ids id).mpr (Or.inl kept)

theorem ensureLoaded_deletable (deletable : pool.Deletable st id) (db : Option (List KeyRow)) :
    ∃ st', pool.ensureLoaded st db = (.ok (), st') ∧
      (id ∈ storedIds st' → id ∈ st'.keysMap.keys ∨ id ∈ st'.selector.keysMap.keys) := by
  unfold Deletable at deletable
  cases loaded : st.isLoaded with
  | true =>
    rw [loaded] at deletable
    exact ⟨st, pool.ensureLoaded_loaded loaded db, deletable⟩
  | false =>
    rw [loaded] at deletable
    obtain ⟨restored, eq, -, stored, ids⟩ := Loading.restore_restorable deletable
    have listed : id ∈ storedIds restored → id ∈ restored.keysMap.keys := by
      intro kept
      rw [stored] at kept
      exact (ids id).mpr (Or.inl kept)
    refine ⟨fillRows restored (if restored.keysMap.size = 0 then db else none), ?_,
      fun kept => Or.inl (fillRows_lists listed _ kept)⟩
    rw [pool.ensureLoaded_eq loaded, eq]
    rfl

theorem removeKey_drops (deletable : pool.Deletable st id) (db : Option (List KeyRow)) :
    ¬Holding (pool.removeKey st id db).2 id := by
  obtain ⟨st', loaded, kept⟩ := ensureLoaded_deletable deletable db
  have gone : ∀ keysMap : KeysMap, id ∉ (keysMap.delete id).keys := fun keysMap held =>
    ((IndexedMap.mem_keys_delete _ _ _).mp held).1 rfl
  simp only [removeKey, loaded]
  split
  · rintro (held | held | ⟨stored, found, held⟩)
    · exact gone _ held
    · exact gone _ held
    · cases found
      exact gone _ held
  · rename_i neither
    rintro (held | held | ⟨stored, found, held⟩)
    · exact gone _ held
    · exact gone _ held
    · have listed : id ∈ storedIds st' := by
        rw [storedIds, found]
        exact held
      apply neither
      rw [Bool.or_eq_true]
      exact (kept listed).imp (IndexedMap.has_iff _ _).mpr (IndexedMap.has_iff _ _).mpr

end KeyPool

/-! ## Runs -/

namespace World

variable [Host] {platform : Platform} {world : World} {id : String} {bar : Bar}

/-- The pool a request removes the key from does not hold it afterwards. -/
theorem drops_gone (allows : Allows platform (fun _ _ => True) world) {request : KeyRequest}
    {tenantId : String} (bars : request.Bars world id bar)
    (drops : request.Drops platform world id tenantId) :
    ¬Holding ((world.serve platform request).pools tenantId) id := by
  cases request with
  | deleteKey caller headerTenant rest =>
    obtain ⟨rfl, same, deletable⟩ := drops
    obtain ⟨rfl, done, -, -⟩ := bars
    obtain ⟨apiKeys, deletion⟩ := Option.isSome_iff_exists.mp done
    have written : Allows platform (fun _ _ => True) { world with apiKeys } := allows
    simp only [serve, deletion]
    rw [forward_eq (P := fun _ _ => True) (written _)]
    simp only [setPool, Function.update_self, same]
    exact removeKey_drops deletable _
  | _ => exact drops.elim

/-- Every pool is its tenant's, whatever is asked. -/
theorem tenants_kept (platform : Platform) (requests : List KeyRequest) :
    Allows platform (fun _ _ => True)
      (requests.foldl (serve platform) (initial platform)) := by
  have guarded : Transition.Guarded (serve platform) (fun _ _ => True) (initial platform)
      requests := Transition.guarded_of_all (fun _ _ => trivial) _ _
  refine Transition.invariant_foldl (I := Allows platform fun _ _ => True) ?_
    (fun _ => within_start) guarded
  intro world request allows _
  apply serve_allows request allows
  · intros
    trivial
  · intros
    trivial

/-- The key is withheld by the table, and no pool it is withdrawn from holds it. -/
structure Withdrawn (platform : Platform) (id : String) (bar : Bar) (world : World) : Prop where
  pools : Allows platform (fun tenantId other => other = id → ¬bar.bars tenantId) world
  table : Withheld id bar world.apiKeys

theorem withdrawn_of_bars (allows : Allows platform (fun _ _ => True) world)
    {request : KeyRequest} (bars : request.Bars world id bar)
    (clears : request.Clears platform world id bar) :
    Withdrawn platform id bar (world.serve platform request) := by
  have table := bars_withheld bars clears
  refine ⟨fun tenantId => ?_, table⟩
  have before : Allows platform (fun tenantId other =>
      other = id → bar.bars tenantId → request.Drops platform world id tenantId) world := by
    intro tenantId
    refine (allows tenantId).imp fun other held _ same barred => ?_
    subst same
    exact clears.1 tenantId barred held
  have after := serve_allows request before ?_ ?_
  · refine (after tenantId).imp fun other held drops same barred => ?_
    have dropped := drops same barred
    subst same
    exact drops_gone allows bars dropped held
  · intro tenantId other posts
    cases request with
    | worker request =>
      cases request with
      | poolMode => exact posts.elim
      | _ => exact bars.elim
    | rpc => exact bars.elim
    | _ => exact posts.elim
  · intro row mem tenantId offered same barred
    exact absurd barred (not_bars_of_offered (table row mem same) offered)

theorem serve_withdrawn (request : KeyRequest) (withdrawn : Withdrawn platform id bar world)
    (respects : request.Respects world id bar) :
    Withdrawn platform id bar (world.serve platform request) := by
  have table : Withheld id bar (world.serve platform request).apiKeys :=
    serve_withheld request withdrawn.table respects
  refine ⟨serve_allows request withdrawn.pools ?_ ?_, table⟩
  · rintro tenantId other posts rfl barred
    cases request with
    | worker request =>
      cases request with
      | createKey =>
        obtain ⟨row, created, -, same⟩ := posts
        exact respects row created same
      | postKeys =>
        obtain ⟨rfl, key, mem, same⟩ := posts
        exact respects barred key mem same
      | putKeys =>
        obtain ⟨rfl, key, mem, same⟩ := posts
        exact respects barred key mem same
      | _ => exact posts.elim
    | rpc =>
      obtain ⟨rfl, key, mem, same⟩ := posts
      exact respects barred key mem same
    | _ => exact posts.elim
  · exact fun row mem tenantId offered same => not_bars_of_offered (table row mem same) offered

/-- After any run, a request that withdraws a key from pools that do not hold it, or that
removes it from the only one, is effective: through every run of requests that do not hand
the key out again, no pool it is withdrawn from gives it out. -/
theorem revocation_effective (platform : Platform) (before : List KeyRequest)
    (request : KeyRequest) (id : String) (bar : Bar) (after : List KeyRequest)
    (bars : request.Bars (before.foldl (serve platform) (initial platform)) id bar)
    (clears : request.Clears platform (before.foldl (serve platform) (initial platform)) id bar)
    (respects : Transition.Guarded (serve platform)
      (fun world next => next.Respects world id bar)
      ((before.foldl (serve platform) (initial platform)).serve platform request) after) :
    ∀ world ∈ Transition.reached (serve platform)
        ((before.foldl (serve platform) (initial platform)).serve platform request) after,
      ∀ tenantId, bar.bars tenantId → ∀ provider now draw,
        ((platform.pool tenantId).getKey (world.pools tenantId) provider now draw
          (world.rowsOf platform tenantId)).1 ≠ .ok id := by
  have first := withdrawn_of_bars (tenants_kept platform before) bars clears
  intro world reached tenantId barred provider now draw dispatched
  have withdrawn := Transition.invariant_of_guarded (I := Withdrawn platform id bar)
    (fun _ next withdrawn respects => serve_withdrawn next withdrawn respects) first respects
    world reached
  have offered : ∀ row ∈ world.apiKeys.values, row.Offered tenantId → row.id = id →
      ¬bar.bars tenantId := fun row mem offered same =>
    not_bars_of_offered (withdrawn.table row mem same) offered
  have within := withdrawn.pools tenantId
  have rows := rowsOf_allowed (P := fun tenantId other => other = id → ¬bar.bars tenantId)
    within offered
  have given := (getKey_within (own tenantId) rows within provider now draw).2 id dispatched
  exact given rfl barred

end World

section Examples

attribute [local instance] asciiHost

namespace World

/-- A key `usr_gh_bob` contributes to the community. -/
def bobKey : KeyRequest :=
  .worker (.createKey "usr_gh_bob" none
    { provider := "groq", key := "gsk_bob", rpmLimit := 30, rpdLimit := 14400, priority := 0,
      poolType := some "COMMUNITY" }
    { stamp := "t", bytes := List.replicate 3 (Fin.last 255), three := rfl,
      ciphertextB64 := "c", nonceB64 := "n" })

def bobId : String := "key_groq_t_ffffff"

/-- The key is deleted before any pool has loaded it; a chat and a restart follow. -/
def deletedWorld : World :=
  [.worker (.chat "acme" "groq" 0 0), .newInstance "usr_gh_bob"].foldl (serve edge)
    (([bobKey].foldl (serve edge) (initial edge)).serve edge (.deleteKey "usr_gh_bob" none bobId))

theorem revocation_effective_bob :
    ((edge.pool "usr_gh_bob").getKey (deletedWorld.pools "usr_gh_bob") "groq" 0 0
      (deletedWorld.rowsOf edge "usr_gh_bob")).1 ≠ .ok bobId := by
  refine revocation_effective edge [bobKey] (.deleteKey "usr_gh_bob" none bobId) bobId .everyone
    [.worker (.chat "acme" "groq" 0 0), .newInstance "usr_gh_bob"]
    ⟨by decide, by decide, Or.inr ?_, rfl⟩ ⟨fun tenantId _ held => ?_, ?_⟩
    ⟨trivial, trivial, trivial⟩ deletedWorld (Transition.foldl_mem_reached _ _ _)
    "usr_gh_bob" trivial "groq" 0 0
  · have owned : (([bobKey].foldl (serve edge) (initial edge)).apiKeys.get? bobId).map
        ApiKeyRow.tenantId = some "usr_gh_bob" := by decide
    unfold Owns
    revert owned
    cases ([bobKey].foldl (serve edge) (initial edge)).apiKeys.get? bobId with
    | none => exact fun owned => by cases owned
    | some row => exact fun owned => Option.some.inj owned
  · by_cases same : tenantId = "usr_gh_bob"
    · subst same
      exact ⟨by decide, by decide, fun _ => Or.inl (by decide)⟩
    · have unused : ([bobKey].foldl (serve edge) (initial edge)).pools tenantId =
          (edge.pool tenantId).start := Function.update_of_ne same _ _
      rw [unused] at held
      rcases held with held | held | ⟨stored, held, -⟩
      · exact absurd held List.not_mem_nil
      · exact absurd held List.not_mem_nil
      · cases held
  · intro other
    cases other

/-- `acme` has loaded the key from the community. -/
def sharedWorld : World :=
  [bobKey, .worker .approveAll, .worker (.chat "acme" "groq" 0 0)].foldl (serve edge)
    (initial edge)

/-- `acme`'s pool gives the key out after the request. -/
abbrev ServedAfter (request : KeyRequest) : Prop :=
  ((edge.pool "acme").getKey ((sharedWorld.serve edge request).pools "acme") "groq" 0 0
    ((sharedWorld.serve edge request).rowsOf edge "acme")).1 = .ok bobId

def bobDeletes : KeyRequest := .deleteKey "usr_gh_bob" none bobId

def adminQuarantines : KeyRequest := .adminRoutingStatus bobId (some "QUARANTINED")

def adminRevokes : KeyRequest := .adminRoutingStatus bobId (some "REVOKED")

def bobWithdraws : KeyRequest :=
  .worker (.poolMode "usr_gh_bob" bobId false (some "PRIVATE"))

/-- Deleted by its owner, quarantined or revoked by the administrator, or made private, the
key is still served to a tenant whose pool has loaded it. -/
theorem revoked_key_served :
    (bobDeletes.Bars sharedWorld bobId .everyone ∧ ServedAfter bobDeletes) ∧
    (adminQuarantines.Bars sharedWorld bobId .everyone ∧ ServedAfter adminQuarantines) ∧
    (adminRevokes.Bars sharedWorld bobId .everyone ∧ ServedAfter adminRevokes) ∧
    (bobWithdraws.Bars sharedWorld bobId (.allBut "usr_gh_bob") ∧ ServedAfter bobWithdraws) := by
  have found : (sharedWorld.apiKeys.get? bobId).map (fun row => (row.tenantId, row.poolType)) =
      some ("usr_gh_bob", .community) := by decide
  obtain ⟨row, present, same⟩ := Option.map_eq_some_iff.mp found
  obtain ⟨owner, community⟩ := Prod.mk.inj same
  have owns : sharedWorld.Owns "usr_gh_bob" bobId := by
    unfold Owns
    rw [present]
    exact owner
  have switched : switchRow "usr_gh_bob" .private row =
      some { row with
        poolType := .private, communityRoutingStatus := none, tenantId := "usr_gh_bob" } := by
    simp [switchRow, owner]
  refine ⟨⟨⟨by decide, by decide, Or.inr owns, rfl⟩, by decide⟩,
    ⟨⟨rfl, Or.inl rfl, rfl⟩, by decide⟩, ⟨⟨rfl, Or.inr rfl, rfl⟩, by decide⟩, ?_, by decide⟩
  exact ⟨rfl, by decide, by decide, row, _, present, community, switched, rfl⟩

end World

end Examples

end KeyCollective
