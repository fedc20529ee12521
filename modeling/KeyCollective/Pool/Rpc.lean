import KeyCollective.Pool.Agreement

/-!
# The pool's RPC

`fetch` checks the tenant header and serves one route. A request is served to its
end before the next one.
-/

namespace KeyCollective

/-- The body of `POST /keys`. -/
inductive PostedKeys where
  | batch (keys : List EncryptedKey)
  | single (key : EncryptedKey)
  | invalid

def PostedKeys.list : PostedKeys → List EncryptedKey
  | .batch keys => keys
  | .single key => [key]
  | .invalid => []

namespace KeyPool

/-- A route with what its body and query name. `tenantId` is the body's. -/
inductive Route where
  | health
  | getKey (tenantId provider : Option String) (draw : Nat)
  | recordUsage (tenantId : Option String) (keyId : String) (costMicrodollars : Int)
  | recordResult (tenantId : Option String) (keyId : String) (success : Bool)
  | recordStatusCode (tenantId : Option String) (keyId : String) (statusCode : Nat)
  | getKeys (provider : Option String)
  | postKeys (body : PostedKeys)
  | putKeys (keys : Option (List EncryptedKey))
  | removeKey (keyId : Option String)
  | metrics (keyId : Option String)
  | capacity (provider : Option String)
  | notFound

structure RpcRequest where
  headerTenant : Option String
  route : Route
  now : Int
  /-- What the database answers if the pool loads itself. -/
  db : Option (List KeyRow)

inductive RpcAnswer where
  | healthy (tenantId : String) (keyCount : Nat)
  | key (keyId : String) (key : Option EncryptedKey)
  | recorded
  | keys (keys : List EncryptedKey)
  | stored (count : Nat)
  | removed (removed : Bool)
  | metrics (metrics : KeyMetrics)
  | capacity (capacity : CapacitySummary)
  | notFound
deriving DecidableEq

variable {α β : Type} (pool : KeyPool)

/-- Call `next` once the call before it has succeeded. -/
def Outcome.andThen (outcome : Outcome α) (next : α → State → Outcome β) : Outcome β :=
  match outcome with
  | (.error e, st) => (.error e, st)
  | (.ok a, st) => next a st

def Outcome.answer (outcome : Outcome α) (answer : α → RpcAnswer) : Outcome RpcAnswer :=
  outcome.andThen fun a st => (.ok (answer a), st)

/-- `I` holds of the state a call leaves behind, and `E` of the error it throws, if any. -/
structure Outcome.Sat (I : State → Prop) (E : PoolError → Prop) (outcome : Outcome α) : Prop where
  state : I outcome.2
  error : ∀ e, outcome.1 = .error e → E e

def isIsolation : PoolError → Bool
  | .tenantIsolation .. => true
  | _ => false

def invalidKey (message : String) (st : State) : Outcome RpcAnswer :=
  (.error (.invalidKey message none), st)

variable [Host]

/-- `tenantId` is the pool's tenant when the request came in. -/
def serveRoute (tenantId : String) (st : State) (route : Route) (now : Int)
    (db : Option (List KeyRow)) : Outcome RpcAnswer :=
  match route with
  | .health => (pool.ensureLoaded st db).andThen fun _ st =>
      (.ok (.healthy tenantId st.keysMap.size), st)
  | .getKey bodyTenant provider draw =>
    (pool.assertTenant st bodyTenant none).andThen fun _ st =>
      if isFalsy provider then invalidKey "Provider parameter is required" st
      else (pool.getKey st (provider.getD "") now draw db).andThen fun id st =>
        (pool.getKeyById st id db).answer (.key id)
  | .recordUsage bodyTenant id costMicrodollars =>
    (pool.assertTenant st bodyTenant none).andThen fun _ st =>
      (pool.recordUsage st id costMicrodollars now db).answer fun _ => .recorded
  | .recordResult bodyTenant id success =>
    (pool.assertTenant st bodyTenant none).andThen fun _ st =>
      (pool.recordResult st id success now db).answer fun _ => .recorded
  | .recordStatusCode bodyTenant id statusCode =>
    (pool.assertTenant st bodyTenant none).andThen fun _ st =>
      (pool.recordStatusCode st id statusCode now db).answer fun _ => .recorded
  | .getKeys provider => (pool.getKeys st provider db).answer .keys
  | .postKeys (.batch keys) => (pool.addKeys st keys db).answer fun _ => .stored keys.length
  | .postKeys (.single key) => (pool.addKey st key db).answer fun _ => .stored 1
  | .postKeys .invalid => invalidKey "Invalid key payload" st
  | .putKeys (some keys) => (pool.setKeys st keys).answer fun _ => .stored keys.length
  | .putKeys none => invalidKey "PUT /keys requires a 'keys' array" st
  | .removeKey id =>
    if isFalsy id then invalidKey "Key ID is required for deletion" st
    else (pool.removeKey st (id.getD "") db).answer .removed
  | .metrics id =>
    if isFalsy id then invalidKey "Key ID is required for /metrics" st
    else (pool.getKeyMetrics st (id.getD "") now db).answer .metrics
  | .capacity provider => (pool.getCapacitySummary st provider now db).answer .capacity
  | .notFound => (.ok .notFound, st)

/-- The check of the header comes before anything is loaded. -/
def handleKeyPoolRpc (st : State) (request : RpcRequest) : Outcome RpcAnswer :=
  let tenantId := st.tenantId
  (pool.assertTenant st request.headerTenant none).andThen fun _ st =>
    pool.serveRoute tenantId st request.route request.now request.db

/-! ## What a request keeps -/

def Route.bodyTenant : Route → Option String
  | .getKey bodyTenant .. | .recordUsage bodyTenant .. | .recordResult bodyTenant ..
  | .recordStatusCode bodyTenant .. => bodyTenant
  | _ => none

/-- The keys the route adds to the pool. -/
def Route.posted : Route → List EncryptedKey
  | .postKeys body => body.list
  | .putKeys keys => keys.getD []
  | _ => []

/-- What the parts of a call keep: `names` holds of the tenants it names and `posts` of the
keys it adds. -/
structure Closed (I : State → Prop) (E : PoolError → Prop) (names : Option String → Prop)
    (posts : EncryptedKey → Prop) (db : Option (List KeyRow)) : Prop where
  bind : ∀ st target resource, I st → names target →
    (pool.assertTenant st target resource).Sat I E
  load : ∀ st, I st → (pool.ensureLoaded st db).Sat I E
  add : ∀ st key, I st → posts key → (pool.addKeySync st key).Sat I E
  clear : ∀ st, I st → I { st with keysMap := .empty }
  replace : ∀ st, I st → I { st with keysMap := .empty, isLoaded := true }
  persist : ∀ st, I st → st.isLoaded = true → I (persistKeys st)
  delete : ∀ st id, I st →
    I { st with
      keysMap := st.keysMap.delete id, selector := (KeySelector.removeKey st.selector id).2 }
  select : ∀ st selector, I st → selector.keysMap = st.selector.keysMap → I { st with selector }
  other : ∀ e, isIsolation e = false → E e

variable {pool} {I : State → Prop} {E : PoolError → Prop} {names : Option String → Prop}
  {posts : EncryptedKey → Prop} {db : Option (List KeyRow)}

omit [Host] in
theorem Outcome.Sat.ok {st : State} (holds : I st) (a : α) :
    Outcome.Sat I E ((.ok a, st) : Outcome α) :=
  ⟨holds, fun _ failed => by cases failed⟩

omit [Host] in
theorem Outcome.Sat.failed {st : State} {e : PoolError} (holds : I st) (allowed : E e) :
    Outcome.Sat I E ((.error e, st) : Outcome α) :=
  ⟨holds, fun _ failed => Except.error.inj failed ▸ allowed⟩

omit [Host] in
theorem Outcome.Sat.imp {J : State → Prop} {outcome : Outcome α} (sat : outcome.Sat I E)
    (weaken : ∀ st, I st → J st) : outcome.Sat J E :=
  ⟨weaken _ sat.state, sat.error⟩

omit [Host] in
theorem Outcome.Sat.andThen {outcome : Outcome α} {next : α → State → Outcome β}
    (sat : outcome.Sat I E)
    (kept : ∀ a st, outcome = (.ok a, st) → I st → (next a st).Sat I E) :
    (outcome.andThen next).Sat I E := by
  obtain ⟨result, st⟩ := outcome
  cases result with
  | error e => exact .failed sat.state (sat.error e rfl)
  | ok a => exact kept a st rfl sat.state

omit [Host] in
theorem Outcome.Sat.answer {outcome : Outcome α} (sat : outcome.Sat I E)
    (answer : α → RpcAnswer) : (outcome.answer answer).Sat I E :=
  sat.andThen fun _ _ _ holds => .ok holds _

omit [Host] in
/-- A pool that has loaded itself is loaded. -/
theorem ensureLoaded_isLoaded {st st' : State} {db : Option (List KeyRow)}
    (ok : pool.ensureLoaded st db = (.ok (), st')) : st'.isLoaded = true := by
  unfold ensureLoaded at ok
  cases loaded : st.isLoaded with
  | true =>
    rw [loaded] at ok
    cases ok
    exact loaded
  | false =>
    simp only [loaded, Bool.false_eq_true, ↓reduceIte] at ok
    revert ok
    cases (pool.restoreTenant st).storedKeys with
    | none => rintro ⟨⟩; rfl
    | some stored =>
      simp only
      rcases pool.restoreKeys stored (pool.restoreTenant st) with ⟨result, restored⟩
      cases result with
      | error e => intro failed; cases failed
      | ok => rintro ⟨⟩; rfl

namespace Closed

variable {st : State} (closed : pool.Closed I E names posts db)

include closed

omit [Host] in
theorem afterLoad (holds : I st) {next : State → Outcome β}
    (kept : ∀ st, I st → st.isLoaded = true → (next st).Sat I E) :
    ((pool.ensureLoaded st db).andThen fun _ st => next st).Sat I E :=
  (closed.load st holds).andThen fun _ st ok holds => kept st holds (ensureLoaded_isLoaded ok)

omit [Host] in
/-- Adding keys changes no more than each addition does, and not whether the pool is loaded. -/
theorem addKeysSync_sat {keys : List EncryptedKey} (posted : ∀ key ∈ keys, posts key)
    (holds : I st) : (pool.addKeysSync keys st).Sat I E := by
  induction keys generalizing st with
  | nil => exact .ok holds ()
  | cons key rest ih =>
    have first := closed.add st key holds (posted key List.mem_cons_self)
    have next : ∀ other ∈ rest, posts other := fun other mem =>
      posted other (List.mem_cons_of_mem key mem)
    unfold addKeysSync
    revert first
    rcases pool.addKeySync st key with ⟨result, st'⟩
    intro first
    cases result with
    | error e => exact first
    | ok => exact ih next first.state

omit [Host] in
theorem thenPersist_sat {outcome : Outcome Unit} (sat : outcome.Sat I E)
    (loaded : outcome.2.isLoaded = true) : (thenPersist outcome).Sat I E := by
  obtain ⟨result, st'⟩ := outcome
  cases result with
  | error e => exact sat
  | ok => exact .ok (closed.persist st' sat.state loaded) ()

omit [Host] in
theorem addKeys_sat {keys : List EncryptedKey} (posted : ∀ key ∈ keys, posts key) (holds : I st) :
    (pool.addKeys st keys db).Sat I E := by
  have split : pool.addKeys st keys db =
      (pool.ensureLoaded st db).andThen fun _ st => thenPersist (pool.addKeysSync keys st) := by
    unfold addKeys Outcome.andThen
    rcases pool.ensureLoaded st db with ⟨_ | _, _⟩ <;> rfl
  rw [split]
  refine closed.afterLoad holds fun st holds loaded => ?_
  have added := (pool.addKeysSync_isLoaded keys st).trans loaded
  exact closed.thenPersist_sat (closed.addKeysSync_sat posted holds) added

omit [Host] in
theorem addKey_sat {key : EncryptedKey} (posted : posts key) (holds : I st) :
    (pool.addKey st key db).Sat I E := by
  have split : pool.addKey st key db =
      (pool.ensureLoaded st db).andThen fun _ st => thenPersist (pool.addKeySync st key) := by
    unfold addKey Outcome.andThen
    rcases pool.ensureLoaded st db with ⟨_ | _, _⟩ <;> rfl
  rw [split]
  refine closed.afterLoad holds fun st holds loaded => ?_
  have added := (pool.addKeysSync_isLoaded [key] st).trans loaded
  rw [← addKeySync_eq] at added
  exact closed.thenPersist_sat (closed.add st key holds posted) added

omit closed in
omit [Host] in
theorem addKeySync_loaded (key : EncryptedKey) (st : State) (isLoaded : Bool) :
    pool.addKeySync { st with isLoaded } key =
      ((pool.addKeySync st key).1, { (pool.addKeySync st key).2 with isLoaded }) := by
  unfold addKeySync assertTenant
  split
  · cases pool.bindTenant st.tenantId key.tenantId <;> rfl
  · rfl

omit closed in
omit [Host] in
/-- Adding keys does not ask whether the pool is loaded. -/
theorem addKeysSync_loaded (pool : KeyPool) (keys : List EncryptedKey) (st : State)
    (isLoaded : Bool) :
    pool.addKeysSync keys { st with isLoaded } =
      ((pool.addKeysSync keys st).1, { (pool.addKeysSync keys st).2 with isLoaded }) := by
  induction keys generalizing st with
  | nil => rfl
  | cons key rest ih =>
    simp only [addKeysSync, addKeySync_loaded]
    rcases pool.addKeySync st key with ⟨result, st'⟩
    cases result with
    | error e => rfl
    | ok => exact ih st'

omit [Host] in
theorem setKeys_sat {keys : List EncryptedKey} (posted : ∀ key ∈ keys, posts key) (holds : I st) :
    (pool.setKeys st keys).Sat I E := by
  have added := closed.addKeysSync_sat posted (closed.clear st holds)
  have replaced := (closed.addKeysSync_sat posted (closed.replace st holds)).state
  have loaded := addKeysSync_loaded pool keys { st with keysMap := .empty } true
  simp only at loaded
  rw [loaded] at replaced
  unfold setKeys
  revert added replaced
  rcases pool.addKeysSync keys { st with keysMap := .empty } with ⟨result, st'⟩
  intro added replaced
  cases result with
  | error e => exact added
  | ok => exact .ok (closed.persist _ replaced rfl) ()

omit [Host] in
theorem removeKey_sat (id : String) (holds : I st) : (pool.removeKey st id db).Sat I E := by
  have split : pool.removeKey st id db = (pool.ensureLoaded st db).andThen fun _ st =>
      let removed := { st with
        keysMap := st.keysMap.delete id
        selector := (KeySelector.removeKey st.selector id).2 }
      if st.keysMap.has id || (KeySelector.removeKey st.selector id).1 then
        (.ok true, persistKeys removed)
      else (.ok false, removed) := by
    unfold removeKey Outcome.andThen
    rcases pool.ensureLoaded st db with ⟨_ | _, _⟩ <;> rfl
  rw [split]
  refine closed.afterLoad holds fun st holds loaded => ?_
  have deleted := closed.delete st id holds
  simp only
  split
  · exact .ok (closed.persist _ deleted loaded) true
  · exact .ok deleted false

omit [Host] in
theorem reportOn_sat (id : String) {report : State → State}
    (reported : ∀ st, I st → I (report st)) (holds : I st) :
    (pool.reportOn st id db report).Sat I E := by
  unfold reportOn
  split
  · exact .failed holds (closed.other _ rfl)
  have loads := closed.load st holds
  revert loads
  rcases pool.ensureLoaded st db with ⟨result, st'⟩
  intro loads
  cases result with
  | error e => exact loads
  | ok =>
    simp only
    split
    · exact .ok (reported st' loads.state) ()
    · exact .failed loads.state (closed.other _ rfl)

theorem getKey_sat (provider : String) (now : Int) (draw : Nat) (holds : I st) :
    (pool.getKey st provider now draw db).Sat I E := by
  unfold getKey
  split
  · exact .failed holds (closed.other _ rfl)
  have loads := closed.load st holds
  revert loads
  rcases pool.ensureLoaded st db with ⟨result, st'⟩
  intro loads
  cases result with
  | error e => exact .failed loads.state (loads.error e rfl)
  | ok =>
    have selected := closed.select st' _ loads.state
      (pool.keySelector.selectKey_keysMap st'.selector provider {} now draw)
    simp only
    split
    · exact .ok selected _
    · exact .failed selected (closed.other _ rfl)
    · exact .failed selected (closed.other _ rfl)

theorem getKeys_sat (provider : Option String) (holds : I st) :
    (pool.getKeys st provider db).Sat I E := by
  have split : pool.getKeys st provider db = (pool.ensureLoaded st db).andThen fun _ st =>
      if isFalsy provider ∨ provider = some "*" then (.ok st.keysMap.values, st)
      else (.ok (st.keysMap.values.filter fun k =>
        normalizeProvider k.provider = normalizeProvider (provider.getD "")), st) := by
    unfold getKeys Outcome.andThen
    rcases pool.ensureLoaded st db with ⟨_ | _, _⟩ <;> rfl
  rw [split]
  refine closed.afterLoad holds fun st holds _ => ?_
  split
  · exact .ok holds _
  · exact .ok holds _

omit [Host] in
theorem getKeyById_sat (id : String) (holds : I st) : (pool.getKeyById st id db).Sat I E := by
  have split : pool.getKeyById st id db =
      (pool.ensureLoaded st db).andThen fun _ st => (.ok (st.keysMap.get? id), st) := by
    unfold getKeyById Outcome.andThen
    rcases pool.ensureLoaded st db with ⟨_ | _, _⟩ <;> rfl
  rw [split]
  exact closed.afterLoad holds fun st holds _ => .ok holds _

omit [Host] in
theorem getKeyMetrics_sat (id : String) (now : Int) (holds : I st) :
    (pool.getKeyMetrics st id now db).Sat I E := by
  have split : pool.getKeyMetrics st id now db = (pool.ensureLoaded st db).andThen fun _ st =>
      if st.keysMap.has id then
        (.ok (pool.keySelector.getKeyMetrics st.selector id now).1,
          { st with selector := (pool.keySelector.getKeyMetrics st.selector id now).2 })
      else (.error (.keyNotFound id s!"Key '{id}' not found in pool" st.tenantId), st) := by
    unfold getKeyMetrics Outcome.andThen
    rcases pool.ensureLoaded st db with ⟨_ | _, _⟩ <;> rfl
  rw [split]
  refine closed.afterLoad holds fun st holds _ => ?_
  split
  · have read := closed.select st (pool.keySelector.getKeyMetrics st.selector id now).2 holds rfl
    exact .ok read _
  · exact .failed holds (closed.other _ rfl)

theorem getCapacitySummary_sat (provider : Option String) (now : Int) (holds : I st) :
    (pool.getCapacitySummary st provider now db).Sat I E := by
  have split : pool.getCapacitySummary st provider now db =
      (pool.ensureLoaded st db).andThen fun _ st =>
        (.ok (pool.keySelector.getCapacitySummary st.selector provider now).1,
          { st with
            selector := (pool.keySelector.getCapacitySummary st.selector provider now).2 }) := by
    unfold getCapacitySummary Outcome.andThen
    rcases pool.ensureLoaded st db with ⟨_ | _, _⟩ <;> rfl
  rw [split]
  refine closed.afterLoad holds fun st holds _ => ?_
  have read := closed.select st
    (pool.keySelector.getCapacitySummary st.selector provider now).2 holds rfl
  exact .ok read _

omit [Host] in
theorem bindThen {target : Option String} (named : names target) (holds : I st)
    {next : State → Outcome β} (kept : ∀ st, I st → (next st).Sat I E) :
    ((pool.assertTenant st target none).andThen fun _ st => next st).Sat I E :=
  (closed.bind st target none holds named).andThen fun _ st _ holds => kept st holds

theorem serveRoute_sat (tenantId : String) (route : Route) (named : names route.bodyTenant)
    (posted : ∀ key ∈ route.posted, posts key) (now : Int) (holds : I st) :
    (pool.serveRoute tenantId st route now db).Sat I E := by
  cases route with
  | health => exact closed.afterLoad holds fun st holds _ => .ok holds _
  | getKey bodyTenant provider draw =>
    refine closed.bindThen named holds fun st holds => ?_
    split
    · exact .failed holds (closed.other _ rfl)
    · exact (closed.getKey_sat _ now draw holds).andThen fun id st _ holds =>
        (closed.getKeyById_sat id holds).answer _
  | recordUsage bodyTenant id costMicrodollars =>
    refine closed.bindThen named holds fun st holds => Outcome.Sat.answer ?_ _
    exact closed.reportOn_sat id (fun st holds => closed.select st _ holds rfl) holds
  | recordResult bodyTenant id success =>
    refine closed.bindThen named holds fun st holds => Outcome.Sat.answer ?_ _
    exact closed.reportOn_sat id (fun st holds => closed.select st _ holds rfl) holds
  | recordStatusCode bodyTenant id statusCode =>
    refine closed.bindThen named holds fun st holds => Outcome.Sat.answer ?_ _
    exact closed.reportOn_sat id (fun st holds => closed.select st _ holds rfl) holds
  | getKeys provider => exact (closed.getKeys_sat provider holds).answer _
  | postKeys body =>
    cases body with
    | batch keys => exact (closed.addKeys_sat posted holds).answer _
    | single key =>
      exact (closed.addKey_sat (posted key (List.mem_singleton.mpr rfl)) holds).answer _
    | invalid => exact .failed holds (closed.other _ rfl)
  | putKeys keys =>
    cases keys with
    | some keys => exact (closed.setKeys_sat posted holds).answer _
    | none => exact .failed holds (closed.other _ rfl)
  | removeKey id =>
    simp only [serveRoute]
    split
    · exact .failed holds (closed.other _ rfl)
    · exact (closed.removeKey_sat _ holds).answer _
  | metrics id =>
    simp only [serveRoute]
    split
    · exact .failed holds (closed.other _ rfl)
    · exact (closed.getKeyMetrics_sat _ now holds).answer _
  | capacity provider => exact (closed.getCapacitySummary_sat provider now holds).answer _
  | notFound => exact .ok holds _

end Closed

/-- A request keeps what its parts keep. -/
theorem handleKeyPoolRpc_sat {request : RpcRequest}
    (closed : pool.Closed I E names posts request.db) (header : names request.headerTenant)
    (named : names request.route.bodyTenant) (posted : ∀ key ∈ request.route.posted, posts key)
    {st : State} (holds : I st) : (pool.handleKeyPoolRpc st request).Sat I E :=
  closed.bindThen header holds fun _ holds =>
    closed.serveRoute_sat st.tenantId request.route named posted request.now holds

end KeyPool

end KeyCollective
