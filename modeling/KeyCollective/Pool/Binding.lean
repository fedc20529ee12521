import KeyCollective.Pool.Kept

/-!
# Tenant binding

A pool whose object id carries no name takes the tenant of the first request. The tenant
is saved with the keys, but a new instance checks the tenant header before it loads.
-/

namespace KeyCollective.KeyPool

variable (pool : KeyPool)

/-- A pool, and the tenants whose requests it has accepted. -/
structure Session where
  st : State
  accepted : List String

def Session.start : Session := ⟨pool.start, []⟩

def refused (outcome : Outcome RpcAnswer) : Bool :=
  match outcome.1 with
  | .error e => isIsolation e
  | .ok _ => false

def acceptedTenant (request : RpcRequest) (outcome : Outcome RpcAnswer) : List String :=
  if refused outcome then [] else (request.headerTenant.filter (· ≠ "")).toList

/-- The target is absent or the tenant itself. -/
def Names (tenantId : String) (target : Option String) : Prop :=
  isFalsy target = true ∨ target = some tenantId

def RpcRequest.tenants (request : RpcRequest) : List (Option String) :=
  request.headerTenant :: request.route.bodyTenant ::
    request.route.posted.map EncryptedKey.tenantId

def RpcRequest.NamesOnly (request : RpcRequest) (tenantId : String) : Prop :=
  ∀ target ∈ request.tenants, Names tenantId target

/-- The pool's constructor resolves a tenant that is not the object's own id. -/
def Named : Prop := pool.idString ≠ pool.resolvedTenant

/-- A load finds nothing of another tenant. -/
structure StorageOf (tenantId : String) (st : State) : Prop where
  keys : ∀ stored, st.storedKeys = some stored →
    ∀ key ∈ stored, isEncryptedKey key = true → Names tenantId key.tenantId
  saved : st.tenantId = pool.idString →
    Names tenantId st.storedTenantId ∨ st.storedTenantId = some pool.idString

/-- A request that reaches an unbound instance names no tenant but the one accepted before,
and not the object's own id; and one that loads the pool finds nothing of another tenant. -/
def Settled (s : Session) : Event → Prop
  | .request request =>
    (s.st.tenantId = pool.idString →
      request.headerTenant ≠ some pool.idString ∧
        ∀ tenantId ∈ s.accepted, request.NamesOnly tenantId) ∧
    (s.st.isLoaded = false → ∀ tenantId ∈ s.accepted, pool.StorageOf tenantId s.st)
  | .clearMemoryCache | .evict => True

section Requests

variable [Host]

def Session.step (s : Session) (event : Event) : Session where
  st := pool.after s.st event
  accepted := match event with
    | .request request =>
      acceptedTenant request (pool.handleKeyPoolRpc s.st request) ++ s.accepted
    | .clearMemoryCache | .evict => s.accepted

/-- The request is refused when its header carries a tenant other than one accepted before,
and is not when it carries that one and names no other. -/
def Permanent (s : Session) (request : RpcRequest) : Prop :=
  ∀ tenantId ∈ s.accepted,
    (∀ target, request.headerTenant = some target → target ≠ "" → target ≠ tenantId →
      refused (pool.handleKeyPoolRpc s.st request) = true) ∧
    (request.headerTenant = some tenantId → request.NamesOnly tenantId →
      refused (pool.handleKeyPoolRpc s.st request) = false)

variable {pool} {tenantId : String} {st : State} {s : Session}

/-! ## A request of one tenant -/

/-- The pool is the tenant's or still unbound, and a load would find nothing of another. -/
structure Toward (pool : KeyPool) (tenantId : String) (st : State) : Prop where
  tenant : st.tenantId = tenantId ∨ st.tenantId = pool.idString
  storage : st.isLoaded = false → pool.StorageOf tenantId st

omit [Host] in
theorem bindTenant_names (toward : st.tenantId = tenantId ∨ st.tenantId = pool.idString)
    {target : Option String} (named : Names tenantId target) :
    ∃ bound, pool.bindTenant st.tenantId target = some bound ∧
      (bound = tenantId ∨ bound = pool.idString) ∧
      (bound = pool.idString → st.tenantId = pool.idString) := by
  unfold bindTenant
  cases falsy : isFalsy target with
  | true => exact ⟨st.tenantId, rfl, toward, fun same => same⟩
  | false =>
    obtain rfl : target = some tenantId := named.resolve_left (by simp [falsy])
    by_cases unbound : st.tenantId = pool.idString
    · rw [if_pos unbound]
      exact ⟨tenantId, rfl, Or.inl rfl, fun _ => unbound⟩
    · obtain rfl : st.tenantId = tenantId := toward.resolve_right unbound
      rw [if_neg unbound]
      exact ⟨st.tenantId, by simp, Or.inl rfl, fun same => same⟩

omit [Host] in
theorem assertTenant_names (toward : st.tenantId = tenantId ∨ st.tenantId = pool.idString)
    {target : Option String} (named : Names tenantId target) (resource : Option String) :
    ∃ bound, pool.assertTenant st target resource = (.ok (), { st with tenantId := bound }) ∧
      (bound = tenantId ∨ bound = pool.idString) ∧
      (bound = pool.idString → st.tenantId = pool.idString) := by
  obtain ⟨bound, binds, kept⟩ := bindTenant_names toward named
  refine ⟨bound, ?_, kept⟩
  unfold assertTenant
  rw [binds]

omit [Host] in
theorem restoreKeys_names {stored : List EncryptedKey}
    (named : ∀ key ∈ stored, isEncryptedKey key = true → Names tenantId key.tenantId)
    (toward : st.tenantId = tenantId ∨ st.tenantId = pool.idString) :
    (pool.restoreKeys stored st).1 = .ok () ∧
      ((pool.restoreKeys stored st).2.tenantId = tenantId ∨
        (pool.restoreKeys stored st).2.tenantId = pool.idString) := by
  induction stored generalizing st with
  | nil => exact ⟨rfl, toward⟩
  | cons key rest ih =>
    have next : ∀ key ∈ rest, isEncryptedKey key = true → Names tenantId key.tenantId :=
      fun other mem => named other (List.mem_cons_of_mem _ mem)
    by_cases valid : isEncryptedKey key = true
    · obtain ⟨bound, asserted, kept, -⟩ := assertTenant_names toward
        (named key List.mem_cons_self valid) (some key.id)
      simp only [restoreKeys, valid, ↓reduceIte, asserted]
      exact ih next kept
    · simp only [restoreKeys, valid]
      exact ih next toward

omit [Host] in
theorem loadRows_tenantId (st : State) (db : Option (List KeyRow)) :
    (loadRows st db).tenantId = st.tenantId := by
  unfold loadRows
  split
  · split
    · rfl
    · rfl
  · rfl

omit [Host] in
theorem ensureLoaded_toward (toward : Toward pool tenantId st) (db : Option (List KeyRow)) :
    (pool.ensureLoaded st db).1 = .ok () ∧ Toward pool tenantId (pool.ensureLoaded st db).2 := by
  unfold ensureLoaded
  cases loaded : st.isLoaded with
  | true => exact ⟨rfl, toward⟩
  | false =>
    have storage := toward.storage loaded
    have restored : (pool.restoreTenant st).tenantId = tenantId ∨
        (pool.restoreTenant st).tenantId = pool.idString := by
      unfold restoreTenant
      split
      · rename_i both
        rcases storage.saved both.2 with (falsy | saved) | saved
        · simp [falsy] at both
        · exact Or.inl (by rw [saved]; rfl)
        · exact Or.inr (by rw [saved]; rfl)
      · exact toward.tenant
    have stored : (pool.restoreTenant st).storedKeys = st.storedKeys := by
      obtain ⟨bound, eq⟩ := pool.restoreTenant_eq st
      rw [eq]
    have load : ∀ {st : State}, (st.tenantId = tenantId ∨ st.tenantId = pool.idString) →
        Toward pool tenantId { loadRows st db with isLoaded := true } := by
      intro st tenant
      exact ⟨(loadRows_tenantId st db).symm ▸ tenant, fun unloaded => by cases unloaded⟩
    simp only [Bool.false_eq_true, ↓reduceIte, stored]
    cases found : st.storedKeys with
    | none => exact ⟨rfl, load restored⟩
    | some keys =>
      obtain ⟨ok, tenant⟩ := restoreKeys_names (storage.keys keys found) restored
      simp only
      revert ok tenant
      rcases pool.restoreKeys keys (pool.restoreTenant st) with ⟨result, st'⟩
      rintro rfl tenant
      exact ⟨rfl, load tenant⟩

omit [Host] in
/-- What a request keeps that names no tenant but one. -/
theorem toward_closed (pool : KeyPool) (tenantId : String) (db : Option (List KeyRow)) :
    pool.Closed (Toward pool tenantId) (isIsolation · = false) (Names tenantId)
      (fun key => Names tenantId key.tenantId) db where
  bind st target resource toward named := by
    obtain ⟨bound, asserted, tenant, unbound⟩ := assertTenant_names toward.tenant named resource
    rw [asserted]
    refine .ok ⟨tenant, fun unloaded => ?_⟩ ()
    have storage := toward.storage unloaded
    exact ⟨storage.keys, fun same => storage.saved (unbound same)⟩
  load st toward := by
    obtain ⟨ok, kept⟩ := ensureLoaded_toward toward db
    refine ⟨kept, fun e failed => ?_⟩
    rw [ok] at failed
    cases failed
  add st key toward named := by
    unfold addKeySync
    split
    · obtain ⟨bound, asserted, tenant, unbound⟩ :=
        assertTenant_names toward.tenant named (some key.id)
      rw [asserted]
      refine .ok ⟨tenant, fun unloaded => ?_⟩ ()
      have storage := toward.storage unloaded
      exact ⟨storage.keys, fun same => storage.saved (unbound same)⟩
    · exact .failed toward rfl
  clear st toward := ⟨toward.tenant, fun unloaded =>
    ⟨(toward.storage unloaded).keys, (toward.storage unloaded).saved⟩⟩
  replace st toward := ⟨toward.tenant, fun unloaded => by cases unloaded⟩
  persist st toward loaded := ⟨toward.tenant, fun unloaded => by
    rw [persistKeys, loaded] at unloaded
    cases unloaded⟩
  delete st id toward := ⟨toward.tenant, fun unloaded =>
    ⟨(toward.storage unloaded).keys, (toward.storage unloaded).saved⟩⟩
  select st selector toward _ := ⟨toward.tenant, fun unloaded =>
    ⟨(toward.storage unloaded).keys, (toward.storage unloaded).saved⟩⟩
  other _ notIsolation := notIsolation

theorem request_toward {request : RpcRequest} (named : request.NamesOnly tenantId)
    (toward : Toward pool tenantId st) :
    (pool.handleKeyPoolRpc st request).Sat (Toward pool tenantId) (isIsolation · = false) := by
  have posted : ∀ key ∈ request.route.posted, Names tenantId key.tenantId := fun key mem =>
    named _ (List.mem_cons_of_mem _ (List.mem_cons_of_mem _ (List.mem_map_of_mem mem)))
  exact handleKeyPoolRpc_sat (toward_closed pool tenantId request.db)
    (named _ List.mem_cons_self) (named _ (List.mem_cons_of_mem _ List.mem_cons_self)) posted toward

/-! ## The run -/

/-- A named pool is its own tenant's, with every key it keeps. -/
def Owned (pool : KeyPool) (st : State) : Prop :=
  Bound pool.resolvedTenant (fun key => key.tenantId = some pool.resolvedTenant) st

structure Binds (pool : KeyPool) (s : Session) : Prop where
  accepted : ∀ tenantId ∈ s.accepted,
    s.st.tenantId = tenantId ∨ s.st.tenantId = pool.idString
  owned : pool.Named → Owned pool s.st

theorem request_bound (other : pool.idString ≠ st.tenantId) (request : RpcRequest) :
    (pool.handleKeyPoolRpc st request).2.tenantId = st.tenantId := by
  have closed := bound_closed (P := fun _ => True) request.db other
    (fun _ _ => trivial) (fun _ _ _ _ _ _ => trivial)
  have sat := handleKeyPoolRpc_sat closed trivial trivial (fun _ _ => trivial)
    (⟨rfl, fun _ _ => trivial⟩ : Bound st.tenantId (fun _ => True) st)
  exact sat.state.tenant

theorem request_owned (named : pool.Named) (owned : Owned pool st) (request : RpcRequest) :
    Owned pool (pool.handleKeyPoolRpc st request).2 := by
  have closed := bound_closed request.db named
    (P := fun key => key.tenantId = some pool.resolvedTenant) (fun _ _ => rfl)
    (fun _ _ _ _ st tenant => congrArg some tenant)
  exact (handleKeyPoolRpc_sat closed trivial trivial (fun _ _ => rfl) owned).state

/-- A bound pool refuses a header of another tenant. -/
theorem refused_of_bound (other : st.tenantId ≠ pool.idString) {request : RpcRequest}
    {target : String} (header : request.headerTenant = some target) (nonempty : target ≠ "")
    (differs : target ≠ st.tenantId) : refused (pool.handleKeyPoolRpc st request) = true := by
  unfold handleKeyPoolRpc
  rcases assertTenant_bound other request.headerTenant none with
    ⟨-, falsy | same⟩ | ⟨⟨e, isolation, asserted⟩, -⟩
  · rw [header] at falsy
    exact absurd (by simpa [isFalsy] using falsy) nonempty
  · rw [header] at same
    exact absurd (Option.some.inj same) differs
  · simp only [asserted]
    exact isolation

/-- A request that is accepted leaves the pool bound to the tenant of its header. -/
theorem tenant_of_accepted {request : RpcRequest}
    (settled : st.tenantId = pool.idString → request.headerTenant ≠ some pool.idString)
    (accepted : tenantId ∈ acceptedTenant request (pool.handleKeyPoolRpc st request)) :
    (pool.handleKeyPoolRpc st request).2.tenantId = tenantId := by
  unfold acceptedTenant at accepted
  split at accepted
  · exact absurd accepted List.not_mem_nil
  rename_i allowed
  rw [Option.mem_toList, Option.filter_eq_some_iff] at accepted
  obtain ⟨header, nonempty⟩ := accepted
  have truthy : tenantId ≠ "" := of_decide_eq_true nonempty
  by_cases unbound : st.tenantId = pool.idString
  · have other : pool.idString ≠ tenantId := fun same =>
      settled unbound (header.trans (congrArg some same.symm))
    have asserted : pool.assertTenant st request.headerTenant none =
        (.ok (), { st with tenantId }) := by
      rw [assertTenant, bindTenant, header, if_neg (by simpa [isFalsy] using truthy),
        if_pos unbound]
    have closed := bound_closed (P := fun _ => True) request.db other
      (fun _ _ => trivial) (fun _ _ _ _ _ _ => trivial)
    have sat := closed.serveRoute_sat st.tenantId request.route trivial (fun _ _ => trivial)
      request.now
      (⟨rfl, fun _ _ => trivial⟩ : Bound tenantId (fun _ => True) { st with tenantId })
    simp only [handleKeyPoolRpc, asserted]
    exact sat.state.tenant
  · rw [request_bound (fun same => unbound same.symm)]
    by_contra differs
    exact allowed (refused_of_bound unbound header truthy (Ne.symm differs))

omit [Host] in
theorem binds_start (pool : KeyPool) : Binds pool (Session.start pool) :=
  ⟨fun _ mem => absurd mem List.not_mem_nil,
    fun _ => ⟨rfl, fun key kept => absurd kept (not_keeps_start key)⟩⟩

omit [Host] in
theorem Binds.named (binds : Binds pool s) (named : pool.Named) :
    s.st.tenantId ≠ pool.idString := (binds.owned named).other named

theorem binds_step (binds : Binds pool s) (event : Event)
    (settled : pool.Named ∨ pool.Settled s event) : Binds pool (s.step pool event) := by
  cases event with
  | request request =>
    have unboundSettled : s.st.tenantId = pool.idString → pool.Settled s (.request request) :=
      fun unbound => settled.resolve_left fun named => binds.named named unbound
    refine ⟨?_, fun named => request_owned named (binds.owned named) request⟩
    intro tenantId mem
    rcases List.mem_append.mp mem with new | old
    · refine Or.inl (tenant_of_accepted (fun unbound => ?_) new)
      exact ((unboundSettled unbound).1 unbound).1
    · by_cases unbound : s.st.tenantId = pool.idString
      · obtain ⟨names, storage⟩ := unboundSettled unbound
        have toward : Toward pool tenantId s.st :=
          ⟨Or.inr unbound, fun unloaded => storage unloaded tenantId old⟩
        exact (request_toward ((names unbound).2 tenantId old) toward).state.tenant
      · refine Or.inl ?_
        rw [Session.step, after, request_bound fun same => unbound same.symm]
        exact (binds.accepted tenantId old).resolve_right unbound
  | clearMemoryCache =>
    refine ⟨binds.accepted, fun named => ?_⟩
    have owned := binds.owned named
    exact ⟨owned.tenant, fun key kept => owned.keeps key (keeps_clearMemoryCache kept)⟩
  | evict =>
    refine ⟨fun tenantId mem => ?_, fun named => ?_⟩
    · by_cases named : pool.Named
      · have bound := (binds.accepted tenantId mem).resolve_right (binds.named named)
        exact Or.inl ((binds.owned named).tenant.symm.trans bound)
      · exact Or.inr (not_not.mp named).symm
    · exact ⟨rfl, fun key kept => (binds.owned named).keeps key (keeps_construct kept)⟩

theorem permanent_of_binds (binds : Binds pool s) {request : RpcRequest}
    (settled : pool.Named ∨ pool.Settled s (.request request)) : pool.Permanent s request := by
  intro tenantId mem
  constructor
  · intro target header nonempty differs
    have bound : s.st.tenantId ≠ pool.idString := by
      intro unbound
      have names := ((settled.resolve_left fun named => binds.named named unbound).1 unbound).2
      rcases names tenantId mem _ List.mem_cons_self with falsy | same
      · rw [header] at falsy
        exact absurd (by simpa [isFalsy] using falsy) nonempty
      · exact absurd (Option.some.inj (header.symm.trans same)) differs
    have tenant := (binds.accepted tenantId mem).resolve_right bound
    exact refused_of_bound bound header nonempty (tenant ▸ differs)
  · intro header names
    have storage : s.st.isLoaded = false → pool.StorageOf tenantId s.st := by
      intro unloaded
      rcases settled with named | settled
      · have owned := binds.owned named
        have bound := (binds.accepted tenantId mem).resolve_right (binds.named named)
        refine ⟨fun stored found key kept _ => Or.inr ?_, fun unbound =>
          absurd unbound (binds.named named)⟩
        rw [owned.keeps key (Or.inr (Or.inr ⟨stored, found, kept⟩)), ← owned.tenant, bound]
      · exact settled.2 unloaded tenantId mem
    have sat := request_toward names ⟨binds.accepted tenantId mem, storage⟩
    unfold refused
    split
    · rename_i e failed
      exact sat.error e failed
    · rfl

/-- A pool whose object id carries a name stays its tenant's in every run. So does one without
a name, as long as each request that reaches an unbound instance, or loads one, finds and
names no tenant but the one accepted before. -/
theorem binding_permanent (pool : KeyPool) (events : List Event)
    (settled : Transition.Guarded (Session.step pool)
      (fun s event => pool.Named ∨ pool.Settled s event) (Session.start pool) events)
    (before after : List Event) (request : RpcRequest)
    (split : events = before ++ .request request :: after) :
    pool.Permanent (before.foldl (Session.step pool) (Session.start pool)) request := by
  subst split
  obtain ⟨earlier, next, -⟩ := (Transition.guarded_append _ _).mp settled
  have binds := Transition.invariant_foldl (I := Binds pool)
    (fun _ event binds settled => binds_step binds event settled) (binds_start pool) earlier
  exact permanent_of_binds binds next

end Requests

section Examples

attribute [local instance] asciiHost

/-- A health check in the name of a tenant. -/
def checkedBy (tenantId : String) : RpcRequest where
  headerTenant := some tenantId
  route := .health
  now := 0
  db := none

theorem binding_permanent_acme :
    acmePool.Permanent
      ([.request (checkedBy "acme"), .evict].foldl (Session.step acmePool) (Session.start acmePool))
      (checkedBy "mallory") :=
  binding_permanent acmePool [.request (checkedBy "acme"), .evict, .request (checkedBy "mallory")]
    (Transition.guarded_of_all (fun _ _ => Or.inl (show "0a1b" ≠ "acme" by decide)) _ _) _ [] _ rfl

/-- A pool whose object id carries no name. -/
def namelessPool : KeyPool := ⟨"0a1b", "0a1b", .create {}, .create {}⟩

/-- After an eviction the pool takes the tenant of the next header, and refuses the tenant
it was bound to. -/
theorem rebound_after_eviction :
    ¬namelessPool.Permanent
        ([.request (checkedBy "acme"), .evict].foldl (Session.step namelessPool)
          (Session.start namelessPool))
        (checkedBy "mallory") ∧
      ¬namelessPool.Permanent
        ([.request (checkedBy "acme"), .evict, .request (checkedBy "mallory")].foldl
          (Session.step namelessPool) (Session.start namelessPool))
        (checkedBy "acme") := by
  constructor
  · intro permanent
    have accepted := (permanent "acme" (by decide)).1 "mallory" rfl (by decide) (by decide)
    revert accepted
    decide
  · intro permanent
    have names : (checkedBy "acme").NamesOnly "acme" := by
      intro target mem
      rcases List.mem_cons.mp mem with rfl | mem
      · exact Or.inr rfl
      · exact Or.inl (List.mem_singleton.mp mem ▸ rfl)
    have kept := (permanent "acme" (by decide)).2 rfl names
    revert kept
    decide

end Examples

end KeyCollective.KeyPool
