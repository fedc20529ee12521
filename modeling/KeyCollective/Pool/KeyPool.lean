import KeyCollective.Pool.EncryptedKey
import KeyCollective.Selector.KeySelector

/-!
# KeyPoolDO

One Durable Object per tenant. It keeps the tenant's keys in a map of its own,
registers them with its selector, and persists them under `pool:keys`. It loads
itself lazily, from storage or from the database.
-/

namespace KeyCollective

inductive PoolError where
  | invalidKey (message : String) (provider : Option String)
  | tenantIsolation (message : String) (tenantId attemptedTenantId : String)
      (resourceId : Option String)
  | keyNotFound (keyId : String) (message : String) (tenantId : String)
  | exhausted (error : KeyExhaustedError)
  | typeError
deriving DecidableEq, Repr

/-- A row of the load query. -/
structure KeyRow where
  id : String
  tenantId : String
  provider : String
  encryptedKeyB64 : String
  nonceB64 : String
  rpmLimit : Int
  rpdLimit : Int
  status : String
  dispatchedToday : Option Nat := none
  dispatchedCommunal : Option Nat := none
  ownerDebt : Option Int := none
deriving DecidableEq, Repr

/-- What a pool is constructed with. -/
structure KeyPool where
  /-- `ctx.id.toString()`. -/
  idString : String
  /-- The tenant resolved by the constructor. -/
  resolvedTenant : String
  circuitBreaker : CircuitBreaker
  rateLimiter : RateLimiter

namespace KeyPool

abbrev KeysMap := IndexedMap (keyId : EncryptedKey → String)

structure State where
  tenantId : String
  isLoaded : Bool
  dispatchedToday : String → Nat
  dispatchedCommunal : String → Nat
  keysMap : KeysMap
  selector : KeySelector.State EncryptedKey
  storedKeys : Option (List EncryptedKey)
  storedTenantId : Option String

variable (pool : KeyPool)

/-- A pool constructed over empty storage. -/
def start : State where
  tenantId := pool.resolvedTenant
  isLoaded := false
  dispatchedToday := fun _ => 0
  dispatchedCommunal := fun _ => 0
  keysMap := .empty
  selector := .fresh
  storedKeys := none
  storedTenantId := none

def keySelector : KeySelector where
  tenantId := some pool.resolvedTenant
  defaultStrategy := .priority
  circuitBreaker := some pool.circuitBreaker
  rateLimiter := some pool.rateLimiter
  storage := true
  storageKeyPrefix := "ks:"

/-- The result of a call and the state it leaves behind, also when it throws. -/
abbrev Outcome (α : Type) := Except PoolError α × State

/-- The tenant the pool is bound to once `target` has been accepted. A pool whose
tenant is still its own object id takes the tenant of the first resource. -/
def bindTenant (current : String) (target : Option String) : Option String :=
  if isFalsy target then some current
  else if current = pool.idString then target
  else if target = some current then some current
  else none

def isolationMessage (attempted current : String) : String :=
  s!"Tenant isolation violation: attempt to access/mutate tenant '{attempted}' in Durable Object for tenant '{current}'"

def assertTenant (st : State) (target : Option String) (resourceId : Option String) :
    Outcome Unit :=
  match pool.bindTenant st.tenantId target with
  | some tenantId => (.ok (), { st with tenantId })
  | none =>
    (.error (.tenantIsolation (isolationMessage (target.getD "") st.tenantId) st.tenantId
      (target.getD "") resourceId), st)

def persistKeys (st : State) : State :=
  { st with storedKeys := some st.keysMap.values, storedTenantId := some st.tenantId }

/-- Copies the stored keys into the pool's map and stops at the first one of another tenant. -/
def restoreKeys : List EncryptedKey → State → Outcome Unit
  | [], st => (.ok (), st)
  | key :: rest, st =>
    if isEncryptedKey key then
      match pool.assertTenant st key.tenantId (some key.id) with
      | (.error e, st) => (.error e, st)
      | (.ok (), st) =>
        restoreKeys rest
          { st with keysMap := st.keysMap.set { key with tenantId := some st.tenantId } }
    else restoreKeys rest st

/-- Own keys rank above every community key; those rank by their owner's debt and
by how much of their traffic is communal. -/
def rowPriority (st : State) (row : KeyRow) : Int :=
  let totalDispatched := row.dispatchedToday.getD 0 + st.dispatchedToday row.id
  let communalDispatched := row.dispatchedCommunal.getD 0 + st.dispatchedCommunal row.id
  let isParasite := 0 < totalDispatched ∧ 10 * communalDispatched < totalDispatched
  let isHero := 0 < totalDispatched ∧ 8 * totalDispatched ≤ 10 * communalDispatched
  if row.tenantId = st.tenantId then 10000
  else min 5000 (row.ownerDebt.getD 0 / 1000) + (if isParasite then 2000 else 0) -
    (if isHero then 1000 else 0)

def rowKey (st : State) (row : KeyRow) : EncryptedKey where
  id := row.id
  tenantId := some st.tenantId
  provider := row.provider
  ciphertext := row.encryptedKeyB64
  nonce := row.nonceB64
  priority := some (rowPriority st row)
  rpmLimit := some row.rpmLimit
  rpdLimit := some row.rpdLimit
  status := some row.status

def registerAll (st : State) : State :=
  { st with selector := KeySelector.setKeys st.selector st.keysMap.values }

/-- Fills an empty pool from the rows the database answers with. `none` is a
missing database or a failing query, which the pool ignores. -/
def loadRows (st : State) (db : Option (List KeyRow)) : State :=
  match db with
  | some (row :: rows) =>
    if st.keysMap.size = 0 then
      let d1Keys := (row :: rows).map (rowKey st)
      let st := registerAll { st with keysMap := st.keysMap.setAll d1Keys }
      { st with storedKeys := some d1Keys, storedTenantId := some st.tenantId }
    else st
  | _ => st

/-- A pool without a tenant name takes the tenant it was saved under. -/
def restoreTenant (st : State) : State :=
  if !isFalsy st.storedTenantId ∧ st.tenantId = pool.idString then
    { st with tenantId := st.storedTenantId.getD "" }
  else st

def ensureLoaded (st : State) (db : Option (List KeyRow)) : Outcome Unit :=
  if st.isLoaded then (.ok (), st)
  else
    let st := pool.restoreTenant st
    match st.storedKeys with
    | some stored =>
      match pool.restoreKeys stored st with
      | (.error e, st) => (.error e, st)
      | (.ok (), st) => (.ok (), { loadRows (registerAll st) db with isLoaded := true })
    | none => (.ok (), { loadRows st db with isLoaded := true })

theorem ensureLoaded_loaded {st : State} (loaded : st.isLoaded = true)
    (db : Option (List KeyRow)) : pool.ensureLoaded st db = (.ok (), st) := by
  simp only [ensureLoaded, loaded, ↓reduceIte]

def clearMemoryCache (st : State) : State :=
  let selector := KeySelector.clearMemoryCache st.selector
  { st with
    keysMap := .empty
    isLoaded := false
    selector :=
      { selector with
        health :=
          { breaker := CircuitBreaker.clearMemoryCache selector.health.breaker
            limiter := RateLimiter.clearMemoryCache selector.health.limiter } } }

def addKeySync (st : State) (key : EncryptedKey) : Outcome Unit :=
  if isEncryptedKey key then
    match pool.assertTenant st key.tenantId (some key.id) with
    | (.error e, st) => (.error e, st)
    | (.ok (), st) =>
      let safeKey := { key with tenantId := some st.tenantId }
      (.ok (), { st with
        keysMap := st.keysMap.set safeKey
        selector := KeySelector.addKey st.selector safeKey })
  else
    (.error (.invalidKey "Invalid EncryptedKey: id, provider, ciphertext, and nonce are required"
      (some key.provider)), st)

/-- Stops at the first rejected key; the ones before it stay added. -/
def addKeysSync : List EncryptedKey → State → Outcome Unit
  | [], st => (.ok (), st)
  | key :: rest, st =>
    match pool.addKeySync st key with
    | (.error e, st) => (.error e, st)
    | (.ok (), st) => addKeysSync rest st

/-- Persist after a call that succeeded. -/
def thenPersist (outcome : Outcome Unit) : Outcome Unit :=
  match outcome with
  | (.error e, st) => (.error e, st)
  | (.ok (), st) => (.ok (), persistKeys st)

def addKey (st : State) (key : EncryptedKey) (db : Option (List KeyRow)) : Outcome Unit :=
  match pool.ensureLoaded st db with
  | (.error e, st) => (.error e, st)
  | (.ok (), st) => thenPersist (pool.addKeySync st key)

def addKeys (st : State) (keys : List EncryptedKey) (db : Option (List KeyRow)) : Outcome Unit :=
  match pool.ensureLoaded st db with
  | (.error e, st) => (.error e, st)
  | (.ok (), st) => thenPersist (pool.addKeysSync keys st)

/-- Replaces the pool's map. The selector's map is only added to. -/
def setKeys (st : State) (keys : List EncryptedKey) : Outcome Unit :=
  match pool.addKeysSync keys { st with keysMap := .empty } with
  | (.error e, st) => (.error e, st)
  | (.ok (), st) => (.ok (), persistKeys { st with isLoaded := true })

def removeKey (st : State) (id : String) (db : Option (List KeyRow)) : Outcome Bool :=
  match pool.ensureLoaded st db with
  | (.error e, st) => (.error e, st)
  | (.ok (), st) =>
    let removedFromMap := st.keysMap.has id
    let (removedFromSelector, selector) := KeySelector.removeKey st.selector id
    let st := { st with keysMap := st.keysMap.delete id, selector }
    if removedFromMap || removedFromSelector then (.ok true, persistKeys st) else (.ok false, st)

def clearKeys (st : State) : State :=
  persistKeys
    { st with
      keysMap := .empty
      selector := KeySelector.clearKeys st.selector
      isLoaded := true }

def recordDispatch (st : State) (id : String) (isCommunal : Bool) : State :=
  { st with
    dispatchedToday := Function.update st.dispatchedToday id (st.dispatchedToday id + 1)
    dispatchedCommunal :=
      if isCommunal then
        Function.update st.dispatchedCommunal id (st.dispatchedCommunal id + 1)
      else st.dispatchedCommunal }

/-- The checks shared by the reports: a non-blank id of a key the pool has. -/
def reportOn (st : State) (id : String) (db : Option (List KeyRow)) (report : State → State) :
    Outcome Unit :=
  if isBlank id then (.error (.invalidKey "Key ID cannot be empty" none), st)
  else
    match pool.ensureLoaded st db with
    | (.error e, st) => (.error e, st)
    | (.ok (), st) =>
      if st.keysMap.has id then (.ok (), report st)
      else (.error (.keyNotFound id s!"Key '{id}' not found in pool" st.tenantId), st)

def mapLimiter (st : State) (f : RateLimiter.Store → RateLimiter.Store) : State :=
  { st with selector := { st.selector with
      health := { st.selector.health with limiter := f st.selector.health.limiter } } }

def mapBreaker (st : State) (f : CircuitBreaker.Store → CircuitBreaker.Store) : State :=
  { st with selector := { st.selector with
      health := { st.selector.health with breaker := f st.selector.health.breaker } } }

def recordUsage (st : State) (id : String) (costMicrodollars now : Int)
    (db : Option (List KeyRow)) : Outcome Unit :=
  pool.reportOn st id db fun st =>
    let st := mapLimiter st fun s => pool.rateLimiter.increment s (some id) costMicrodollars now
    { st with selector := KeySelector.recordUsage st.selector id }

def recordResult (st : State) (id : String) (success : Bool) (now : Int)
    (db : Option (List KeyRow)) : Outcome Unit :=
  pool.reportOn st id db fun st =>
    mapBreaker st fun s => pool.circuitBreaker.recordResult s id success now

def recordStatusCode (st : State) (id : String) (statusCode : Nat) (now : Int)
    (db : Option (List KeyRow)) : Outcome Unit :=
  pool.reportOn st id db fun st =>
    mapBreaker st fun s => pool.circuitBreaker.recordStatusCode s id statusCode now

variable [Host]

def getKeys (st : State) (provider : Option String) (db : Option (List KeyRow)) :
    Outcome (List EncryptedKey) :=
  match pool.ensureLoaded st db with
  | (.error e, st) => (.error e, st)
  | (.ok (), st) =>
    if isFalsy provider ∨ provider = some "*" then (.ok st.keysMap.values, st)
    else
      let norm := normalizeProvider (provider.getD "")
      (.ok (st.keysMap.values.filter fun k => normalizeProvider k.provider = norm), st)

def getKey (st : State) (provider : String) (now : Int) (draw : Nat)
    (db : Option (List KeyRow)) : Outcome String :=
  if isBlank provider then
    (.error (.invalidKey "Provider parameter cannot be empty" none), st)
  else
    match pool.ensureLoaded st db with
    | (.error e, st) => (.error e, st)
    | (.ok (), st) =>
      let (selected, selector) := pool.keySelector.selectKey st.selector provider {} now draw
      let st := { st with selector }
      match selected with
      | .ok (some key) => (.ok key.id, st)
      | .ok none => (.error .typeError, st)
      | .error e => (.error (.exhausted e), st)

def getKeyById (st : State) (id : String) (db : Option (List KeyRow)) :
    Outcome (Option EncryptedKey) :=
  match pool.ensureLoaded st db with
  | (.error e, st) => (.error e, st)
  | (.ok (), st) => (.ok (st.keysMap.get? id), st)

def getKeyMetrics (st : State) (id : String) (now : Int) (db : Option (List KeyRow)) :
    Outcome KeyMetrics :=
  match pool.ensureLoaded st db with
  | (.error e, st) => (.error e, st)
  | (.ok (), st) =>
    if st.keysMap.has id then
      let (metrics, selector) := pool.keySelector.getKeyMetrics st.selector id now
      (.ok metrics, { st with selector })
    else (.error (.keyNotFound id s!"Key '{id}' not found in pool" st.tenantId), st)

def getCapacitySummary (st : State) (provider : Option String) (now : Int)
    (db : Option (List KeyRow)) : Outcome CapacitySummary :=
  match pool.ensureLoaded st db with
  | (.error e, st) => (.error e, st)
  | (.ok (), st) =>
    let (capacity, selector) := pool.keySelector.getCapacitySummary st.selector provider now
    (.ok capacity, { st with selector })

end KeyPool

end KeyCollective
