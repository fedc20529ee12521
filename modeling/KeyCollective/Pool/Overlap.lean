import KeyCollective.Pool.Rpc

/-!
# Overlapping loads

A call on a pool that is not loaded loads it first, and other calls run while it waits for
the database. The rows of its query are then written over what those calls have left.
-/

namespace KeyCollective.KeyPool

variable (pool : KeyPool)

/-- The load up to its query: what storage holds. -/
def restore (st : State) : Outcome Unit :=
  let st := pool.restoreTenant st
  match st.storedKeys with
  | some stored =>
    match pool.restoreKeys stored st with
    | (.error e, st) => (.error e, st)
    | (.ok (), st) => (.ok (), registerAll st)
  | none => (.ok (), st)

/-- The load from its query on. That the pool was empty is not looked at again. -/
def fillRows (st : State) (db : Option (List KeyRow)) : State :=
  match db with
  | some (row :: rows) =>
    let d1Keys := (row :: rows).map (rowKey st)
    let st := registerAll { st with keysMap := st.keysMap.setAll d1Keys }
    { st with storedKeys := some d1Keys, storedTenantId := some st.tenantId, isLoaded := true }
  | _ => { st with isLoaded := true }

/-- A load that nothing comes in between of is `ensureLoaded`. -/
theorem ensureLoaded_eq {st : State} (unloaded : st.isLoaded = false)
    (db : Option (List KeyRow)) :
    pool.ensureLoaded st db =
      (pool.restore st).andThen fun _ st =>
        (.ok (), fillRows st (if st.keysMap.size = 0 then db else none)) := by
  have load : ∀ st : State, { loadRows st db with isLoaded := true } =
      fillRows st (if st.keysMap.size = 0 then db else none) := by
    intro st
    unfold loadRows fillRows
    rcases db with _ | _ | ⟨row, rows⟩
    · simp
    · simp
    · by_cases empty : st.keysMap.size = 0
      · simp only [empty, ↓reduceIte]
      · simp only [empty, ↓reduceIte]
  unfold ensureLoaded restore Outcome.andThen
  simp only [unloaded, Bool.false_eq_true, ↓reduceIte]
  cases (pool.restoreTenant st).storedKeys with
  | none => exact congrArg _ (load _)
  | some stored =>
    simp only
    rcases pool.restoreKeys stored (pool.restoreTenant st) with ⟨result, st'⟩
    cases result with
    | error e => rfl
    | ok => exact congrArg _ (load _)

inductive Call where
  | addKey (key : EncryptedKey)
  | addKeys (keys : List EncryptedKey)
  | removeKey (id : String)
  | setKeys (keys : List EncryptedKey)
  | getKey (provider : String) (now : Int) (draw : Nat)

/-- What the calls that have returned say of an id. -/
inductive Fate where
  | untouched
  | added
  | removed
deriving DecidableEq, Repr

/-- A pool and its calls that wait for the database. -/
structure Loading where
  st : State
  pending : List Call
  fate : String → Fate

inductive LoadEvent where
  | call (call : Call)
  /-- The query of a waiting call is answered. -/
  | answered (index : Nat) (db : Option (List KeyRow))

namespace Call

/-- A key that `setKeys` drops is removed. -/
def settle (held : KeysMap) (fate : String → Fate) : Call → String → Fate
  | .addKey key => Function.update fate key.id .added
  | .addKeys keys => fun id => if id ∈ keys.map keyId then .added else fate id
  | .removeKey id => Function.update fate id .removed
  | .setKeys keys => fun id =>
    if id ∈ keys.map keyId then .added else if held.has id then .removed else fate id
  | .getKey .. => fate

/-- `setKeys` does not load the pool, and `getKey` checks its provider first. -/
def loads : Call → Bool
  | .setKeys _ => false
  | .getKey provider .. => !isBlank provider
  | _ => true

variable [Host]

/-- The call, when nothing comes in between. -/
def serve (st : State) (db : Option (List KeyRow)) : Call → Outcome Unit
  | .addKey key => pool.addKey st key db
  | .addKeys keys => pool.addKeys st keys db
  | .removeKey id => (pool.removeKey st id db).andThen fun _ st => (.ok (), st)
  | .setKeys keys => pool.setKeys st keys
  | .getKey provider now draw =>
    (pool.getKey st provider now draw db).andThen fun _ st => (.ok (), st)

theorem serve_loads {call : Call} (loads : call.loads = true) (st : State)
    (db : Option (List KeyRow)) :
    call.serve pool st db =
      (pool.ensureLoaded st db).andThen fun _ st => call.serve pool st none := by
  rcases load : pool.ensureLoaded st db with ⟨result, st'⟩
  cases result with
  | error e =>
    cases call with
    | setKeys keys => cases loads
    | getKey provider now draw =>
      have named : isBlank provider = false := by simpa [Call.loads] using loads
      simp [serve, KeyPool.getKey, Outcome.andThen, load, named]
    | _ => simp [serve, KeyPool.addKey, KeyPool.addKeys, KeyPool.removeKey, Outcome.andThen, load]
  | ok =>
    have loaded := pool.ensureLoaded_loaded (ensureLoaded_isLoaded load) none
    cases call with
    | setKeys keys => cases loads
    | getKey provider now draw =>
      have named : isBlank provider = false := by simpa [Call.loads] using loads
      simp [serve, KeyPool.getKey, Outcome.andThen, load, loaded, named]
    | _ =>
      simp [serve, KeyPool.addKey, KeyPool.addKeys, KeyPool.removeKey, Outcome.andThen, load,
        loaded]

end Call

section Calls

variable [Host]

namespace Loading

/-- The call on a pool that is loaded, or that it does not load. -/
def finish (s : Loading) (call : Call) : Loading :=
  match call.serve pool s.st none with
  | (.ok (), st) => { s with st, fate := call.settle s.st.keysMap s.fate }
  | (.error _, st) => { s with st }

/-- `database` says whether the pool has a database to ask. -/
def step (database : Bool) (s : Loading) : LoadEvent → Loading
  | .call call =>
    if !call.loads || s.st.isLoaded then s.finish pool call
    else match pool.restore s.st with
      | (.error _, st) => { s with st }
      | (.ok (), st) =>
        if st.keysMap.size = 0 ∧ database then { s with st, pending := s.pending ++ [call] }
        else Loading.finish pool { s with st := { st with isLoaded := true } } call
  | .answered index db =>
    match s.pending[index]? with
    | none => s
    | some call =>
      Loading.finish pool
        { s with st := fillRows s.st db, pending := s.pending.eraseIdx index } call

@[simp] theorem finish_st (s : Loading) (call : Call) :
    (s.finish pool call).st = (call.serve pool s.st none).2 := by
  unfold finish
  split <;> rename_i served <;> rw [served]

@[simp] theorem finish_pending (s : Loading) (call : Call) :
    (s.finish pool call).pending = s.pending := by
  unfold finish
  split <;> rfl

/-- A call whose query is answered at once leaves the pool as the call itself does. -/
theorem uninterrupted (st : State) (fate : String → Fate) (call : Call)
    (db : Option (List KeyRow)) :
    ([.call call, .answered 0 db].foldl (step pool true) ⟨st, [], fate⟩).st =
      (call.serve pool st db).2 := by
  cases loads : call.loads with
  | false =>
    have same : call.serve pool st db = call.serve pool st none := by
      cases call with
      | setKeys keys => rfl
      | getKey provider now draw =>
        have blank : isBlank provider = true := by simpa [Call.loads] using loads
        simp [Call.serve, getKey, blank]
      | _ => cases loads
    simp [step, loads, same]
  | true =>
    rw [Call.serve_loads pool loads]
    cases loaded : st.isLoaded with
    | true =>
      rw [pool.ensureLoaded_loaded loaded]
      simp [step, loaded, Outcome.andThen]
    | false =>
      rw [pool.ensureLoaded_eq loaded]
      rcases found : pool.restore st with ⟨result, st'⟩
      cases result with
      | error e => simp [step, loads, loaded, found, Outcome.andThen]
      | ok =>
        by_cases empty : st'.keysMap.size = 0
        · simp [step, loads, loaded, found, empty, Outcome.andThen]
        · simp [step, loads, loaded, found, empty, Outcome.andThen, fillRows]

end Loading

/-! ## When the persisted list keeps up -/

def storedIds (st : State) : List String := (st.storedKeys.getD []).map keyId

/-- The persisted list has the ids of the map. -/
def Synced (st : State) : Prop := ∀ id, id ∈ storedIds st ↔ id ∈ st.keysMap.keys

def acceptedIds (tenantId : String) (keys : List EncryptedKey) : List String :=
  (pool.acceptedKeys tenantId keys).map keyId

/-- No key is rejected. -/
def Accepts (tenantId : String) (keys : List EncryptedKey) : Prop :=
  pool.acceptedIds tenantId keys = keys.map keyId

/-- A load takes over every stored key. -/
def Restorable (st : State) : Prop :=
  ∀ stored, st.storedKeys = some stored →
    (∀ key ∈ stored, isEncryptedKey key = true) ∧
      (pool.restoreKeys stored (pool.restoreTenant st)).1 = .ok ()

namespace Call

variable (tenantId : String) (held : String → Prop)

/-- The call persists the map of a pool that holds the ids. -/
def Persists : Call → Prop
  | .addKey key => pool.Accepts tenantId [key]
  | .addKeys keys | .setKeys keys => pool.Accepts tenantId keys
  | .removeKey id => held id
  | .getKey .. => False

/-- Rejected halfway, the call leaves the pool with the ids it holds. -/
def Harmless : Call → Prop
  | .addKeys keys =>
    pool.Accepts tenantId keys ∨ ∀ id ∈ pool.acceptedIds tenantId keys, held id
  | .setKeys keys =>
    pool.Accepts tenantId keys ∨ ∀ id, id ∈ pool.acceptedIds tenantId keys ↔ held id
  | _ => True

/-- The call adds or removes the id itself. -/
def Settles (id : String) : Call → Prop
  | .addKey key => pool.Accepts tenantId [key] ∧ id = key.id
  | .addKeys keys => pool.Accepts tenantId keys ∧ id ∈ keys.map keyId
  | .setKeys keys => pool.Accepts tenantId keys
  | .removeKey other => id = other
  | .getKey .. => False

end Call

namespace Loading

/-- What holds of a pool whose calls have returned. -/
structure Consistent (s : Loading) : Prop where
  persisted : Synced s.st
  added : ∀ id, s.fate id = .added → id ∈ storedIds s.st
  removed : ∀ id, s.fate id = .removed → id ∉ s.st.keysMap.keys

/-- A call that does not wait leaves map and list in step. A load finds every stored key
restorable. The rows of a load hold every id of the map or its call persists the map, and
they hold no removed id but the ones its call settles. -/
def Safe (database : Bool) (s : Loading) : LoadEvent → Prop
  | .call call =>
    if !call.loads || s.st.isLoaded then
      call.Harmless pool s.st.tenantId (· ∈ s.st.keysMap.keys) ∧
        (call.Persists pool s.st.tenantId (· ∈ s.st.keysMap.keys) ∨ Synced s.st)
    else
      pool.Restorable s.st ∧
        (database = true ∧ storedIds s.st = [] ∨
          call.Harmless pool (pool.restore s.st).2.tenantId (· ∈ storedIds s.st))
  | .answered index db =>
    ∃ call, s.pending[index]? = some call ∧
      let rows := (db.getD []).map KeyRow.id
      let held := fun id => id ∈ rows ∨ id ∈ s.st.keysMap.keys
      (rows = [] ∨ call.Persists pool s.st.tenantId held ∨
        ∀ id ∈ s.st.keysMap.keys, id ∈ rows) ∧
      (∀ id ∈ rows, s.fate id = .removed → call.Settles pool s.st.tenantId id) ∧
      call.Harmless pool s.st.tenantId held

end Loading

/-! ## One lemma per call -/

section Served

variable {pool} {st : State}

omit [Host] in
theorem addKeysSync_accepts (pool : KeyPool) (keys : List EncryptedKey) (st : State) :
    ((pool.addKeysSync keys st).1 = .ok () ∧ pool.Accepts st.tenantId keys) ∨
      (∃ e, (pool.addKeysSync keys st).1 = .error e) ∧ ¬pool.Accepts st.tenantId keys := by
  induction keys generalizing st with
  | nil => exact Or.inl ⟨rfl, rfl⟩
  | cons key rest ih =>
    unfold Accepts acceptedIds
    by_cases valid : isEncryptedKey key = true
    · rcases pool.assertTenant_cases st key.tenantId (some key.id) with
        ⟨bound, binds, asserted⟩ | ⟨refused, e, asserted⟩
      · have tail : ∀ ids : List String, (keyId { key with tenantId := some bound } :: ids =
            keyId key :: rest.map keyId) ↔ ids = rest.map keyId := fun ids =>
          List.cons_inj_right (keyId key)
        simp only [addKeysSync, addKeySync, acceptedKeys, valid, ↓reduceIte, asserted, binds,
          List.map_cons, tail]
        exact ih _
      · simp only [addKeysSync, addKeySync, acceptedKeys, valid, ↓reduceIte, asserted, refused]
        exact Or.inr ⟨⟨e, rfl⟩, by simp⟩
    · simp only [addKeysSync, addKeySync, acceptedKeys, valid]
      exact Or.inr ⟨⟨_, rfl⟩, by simp⟩

omit [Host] in
theorem synced_persistKeys (st : State) : Synced (persistKeys st) := fun _ => Iff.rfl

omit [Host] in
/-- What adding keys to a loaded pool does. -/
theorem addKeys_loaded (loaded : st.isLoaded = true) (keys : List EncryptedKey) :
    ∃ st', st'.isLoaded = true ∧
      (∀ id, id ∈ st'.keysMap.keys ↔
        id ∈ pool.acceptedIds st.tenantId keys ∨ id ∈ st.keysMap.keys) ∧
      (pool.addKeys st keys none = (.ok (), st') ∧ pool.Accepts st.tenantId keys ∧ Synced st' ∨
        (∃ e, pool.addKeys st keys none = (.error e, st')) ∧ ¬pool.Accepts st.tenantId keys ∧
          storedIds st' = storedIds st) := by
  obtain ⟨tenantId, eq⟩ := pool.addKeysSync_spec keys st
  have accepts := addKeysSync_accepts pool keys st
  have ids : ∀ id, id ∈ (pool.addKeysSync keys st).2.keysMap.keys ↔
      id ∈ pool.acceptedIds st.tenantId keys ∨ id ∈ st.keysMap.keys := by
    intro id
    rw [eq]
    exact IndexedMap.mem_keys_setAll _ _ _
  have isLoaded := (pool.addKeysSync_isLoaded keys st).trans loaded
  have stored : storedIds (pool.addKeysSync keys st).2 = storedIds st := by rw [eq]; rfl
  simp only [addKeys, pool.ensureLoaded_loaded loaded]
  revert accepts ids isLoaded stored
  rcases pool.addKeysSync keys st with ⟨result, st'⟩
  intro accepts ids isLoaded stored
  rcases accepts with ⟨ok, accepts⟩ | ⟨⟨e, failed⟩, rejects⟩
  · obtain rfl : result = .ok () := ok
    exact ⟨persistKeys st', isLoaded, ids, Or.inl ⟨rfl, accepts, synced_persistKeys st'⟩⟩
  · obtain rfl : result = .error e := failed
    exact ⟨st', isLoaded, ids, Or.inr ⟨⟨e, rfl⟩, rejects, stored⟩⟩

omit [Host] in
theorem addKey_eq (st : State) (key : EncryptedKey) (db : Option (List KeyRow)) :
    pool.addKey st key db = pool.addKeys st [key] db := by
  have one : ∀ st, pool.addKeysSync [key] st = pool.addKeySync st key := by
    intro st
    unfold addKeysSync
    rcases pool.addKeySync st key with ⟨result, st'⟩
    cases result <;> rfl
  simp only [addKey, addKeys, one]

omit [Host] in
variable (pool) in
theorem setKeys_spec (st : State) (keys : List EncryptedKey) :
    ∃ st', (∀ id, id ∈ st'.keysMap.keys ↔ id ∈ pool.acceptedIds st.tenantId keys) ∧
      (pool.setKeys st keys = (.ok (), st') ∧ st'.isLoaded = true ∧
          pool.Accepts st.tenantId keys ∧ Synced st' ∨
        (∃ e, pool.setKeys st keys = (.error e, st')) ∧ st'.isLoaded = st.isLoaded ∧
          ¬pool.Accepts st.tenantId keys ∧ storedIds st' = storedIds st) := by
  let cleared : State := { st with keysMap := .empty }
  obtain ⟨tenantId, eq⟩ := pool.addKeysSync_spec keys cleared
  have accepts := addKeysSync_accepts pool keys cleared
  have ids : ∀ id, id ∈ (pool.addKeysSync keys cleared).2.keysMap.keys ↔
      id ∈ pool.acceptedIds st.tenantId keys := by
    intro id
    rw [eq]
    refine (IndexedMap.mem_keys_setAll _ _ _).trans ?_
    exact or_iff_left List.not_mem_nil
  have isLoaded : (pool.addKeysSync keys cleared).2.isLoaded = st.isLoaded := by rw [eq]
  have stored : storedIds (pool.addKeysSync keys cleared).2 = storedIds st := by rw [eq]; rfl
  unfold setKeys
  revert accepts ids isLoaded stored
  rcases pool.addKeysSync keys cleared with ⟨result, st'⟩
  intro accepts ids isLoaded stored
  rcases accepts with ⟨ok, accepts⟩ | ⟨⟨e, failed⟩, rejects⟩
  · obtain rfl : result = .ok () := ok
    exact ⟨persistKeys { st' with isLoaded := true }, ids,
      Or.inl ⟨rfl, rfl, accepts, synced_persistKeys _⟩⟩
  · obtain rfl : result = .error e := failed
    exact ⟨st', ids, Or.inr ⟨⟨e, rfl⟩, isLoaded, rejects, stored⟩⟩

omit [Host] in
variable (pool) in
theorem removeKey_loaded (loaded : st.isLoaded = true) (id : String) :
    ∃ st' removed, pool.removeKey st id none = (.ok removed, st') ∧ st'.isLoaded = true ∧
      (∀ other, other ∈ st'.keysMap.keys ↔ other ≠ id ∧ other ∈ st.keysMap.keys) ∧
      (Synced st' ∨ id ∉ st.keysMap.keys ∧ storedIds st' = storedIds st) := by
  have ids : ∀ other, other ∈ (st.keysMap.delete id).keys ↔
      other ≠ id ∧ other ∈ st.keysMap.keys := fun other => IndexedMap.mem_keys_delete _ _ _
  simp only [removeKey, pool.ensureLoaded_loaded loaded]
  split
  · exact ⟨_, _, rfl, loaded, ids, Or.inl (synced_persistKeys _)⟩
  · rename_i neither
    refine ⟨_, _, rfl, loaded, ids, Or.inr ⟨fun held => neither ?_, rfl⟩⟩
    rw [(IndexedMap.has_iff _ _).mpr held]
    rfl

/-- `getKey` on a loaded pool changes nothing but its selector. -/
theorem getKey_loaded (loaded : st.isLoaded = true) (provider : String) (now : Int)
    (draw : Nat) : ∃ selector, (pool.getKey st provider now draw none).2 = { st with selector } := by
  unfold getKey
  split
  · exact ⟨st.selector, rfl⟩
  · simp only [pool.ensureLoaded_loaded loaded]
    split
    · exact ⟨_, rfl⟩
    · exact ⟨_, rfl⟩
    · exact ⟨_, rfl⟩

end Served

/-! ## One lemma per step -/

namespace Loading

variable {pool} {s : Loading}

/-- What a call must find when it runs. -/
structure Ready (pool : KeyPool) (s : Loading) (call : Call) : Prop where
  persisted : call.Persists pool s.st.tenantId (· ∈ s.st.keysMap.keys) ∨ Synced s.st
  added : ∀ id, s.fate id = .added → id ∈ s.st.keysMap.keys
  removed : ∀ id ∈ s.st.keysMap.keys, s.fate id = .removed →
    call.Settles pool s.st.tenantId id
  harmless : call.Harmless pool s.st.tenantId (· ∈ s.st.keysMap.keys)

/-- An unloaded pool holds nothing, and no call has changed it. -/
structure Untouched (s : Loading) : Prop where
  empty : s.st.keysMap.keys = []
  untouched : ∀ id, s.fate id = .untouched

structure Inv (s : Loading) : Prop where
  consistent : Consistent s
  unloaded : s.st.isLoaded = false → Untouched s

omit [Host] in
theorem Inv.of_loaded (loaded : s.st.isLoaded = true) (persisted : Synced s.st)
    (added : ∀ id, s.fate id = .added → id ∈ s.st.keysMap.keys)
    (removed : ∀ id, s.fate id = .removed → id ∉ s.st.keysMap.keys) : Inv s where
  consistent := ⟨persisted, fun id mem => (persisted id).mpr (added id mem), removed⟩
  unloaded := fun unloaded => absurd (loaded.symm.trans unloaded) Bool.noConfusion

theorem finish_ok (call : Call) {st : State} (served : call.serve pool s.st none = (.ok (), st)) :
    s.finish pool call = { s with st, fate := call.settle s.st.keysMap s.fate } := by
  unfold finish
  rw [served]

theorem finish_error (call : Call) {st : State} {e : PoolError}
    (served : call.serve pool s.st none = (.error e, st)) :
    s.finish pool call = { s with st } := by
  unfold finish
  rw [served]

theorem finish_addKeys (loaded : s.st.isLoaded = true) (keys : List EncryptedKey)
    (ready : Ready pool s (.addKeys keys)) : Inv (s.finish pool (.addKeys keys)) := by
  obtain ⟨st', isLoaded, ids, ⟨ok, accepts, synced⟩ | ⟨⟨e, failed⟩, rejects, stored⟩⟩ :=
    addKeys_loaded loaded keys
  · rw [finish_ok (.addKeys keys) ok]
    rw [accepts] at ids
    apply Inv.of_loaded isLoaded synced
    · intro id added
      refine (ids id).mpr ?_
      by_cases named : id ∈ keys.map keyId
      · exact Or.inl named
      · simp only [Call.settle, named, ↓reduceIte] at added
        exact Or.inr (ready.added id added)
    · intro id removed held
      by_cases named : id ∈ keys.map keyId
      · simp [Call.settle, named] at removed
      · simp only [Call.settle, named, ↓reduceIte] at removed
        have before := ((ids id).mp held).resolve_left named
        exact named (ready.removed id before removed).2
  · rw [finish_error (.addKeys keys) failed]
    have harmless := ready.harmless.resolve_left rejects
    have same : ∀ id, id ∈ st'.keysMap.keys ↔ id ∈ s.st.keysMap.keys := fun id =>
      (ids id).trans (or_iff_right_of_imp (harmless id))
    have before := ready.persisted.resolve_left rejects
    apply Inv.of_loaded isLoaded
    · intro id
      rw [stored, before id, same id]
    · exact fun id added => (same id).mpr (ready.added id added)
    · exact fun id removed held => rejects (ready.removed id ((same id).mp held) removed).1

omit [Host] in
/-- A single key is added or not. -/
theorem accepted_one (tenantId : String) (key : EncryptedKey) :
    pool.Accepts tenantId [key] ∨ pool.acceptedIds tenantId [key] = [] := by
  unfold Accepts acceptedIds acceptedKeys
  split
  · split
    · exact Or.inl rfl
    · exact Or.inr rfl
  · exact Or.inr rfl

theorem finish_addKey (loaded : s.st.isLoaded = true) (key : EncryptedKey)
    (ready : Ready pool s (.addKey key)) : Inv (s.finish pool (.addKey key)) := by
  have same : s.finish pool (.addKey key) = s.finish pool (.addKeys [key]) := by
    have settled : (Call.addKey key).settle s.st.keysMap s.fate =
        (Call.addKeys [key]).settle s.st.keysMap s.fate := by
      funext id
      simp only [Call.settle, Function.update_apply, List.map_cons, List.map_nil,
        List.mem_singleton]
      rfl
    unfold finish
    rw [settled]
    simp only [Call.serve, addKey_eq]
  rw [same]
  apply finish_addKeys loaded
  refine ⟨ready.persisted, ready.added, fun id held removed => ?_, ?_⟩
  · obtain ⟨accepts, rfl⟩ := ready.removed id held removed
    exact ⟨accepts, List.mem_singleton.mpr rfl⟩
  · refine (accepted_one s.st.tenantId key).imp_right fun none id mem => ?_
    rw [none] at mem
    exact absurd mem List.not_mem_nil

theorem finish_removeKey (loaded : s.st.isLoaded = true) (id : String)
    (ready : Ready pool s (.removeKey id)) : Inv (s.finish pool (.removeKey id)) := by
  obtain ⟨st', removed, ok, isLoaded, ids, synced⟩ := removeKey_loaded pool loaded id
  have served : (Call.removeKey id).serve pool s.st none = (.ok (), st') := by
    simp only [Call.serve, ok, Outcome.andThen]
  rw [finish_ok (.removeKey id) served]
  have gone : ∀ other ∈ s.st.keysMap.keys, s.fate other = .removed → other = id :=
    ready.removed
  apply Inv.of_loaded isLoaded
  · rcases synced with synced | ⟨absent, stored⟩
    · exact synced
    · have before := ready.persisted.resolve_left absent
      intro other
      rw [stored, before other, ids other]
      refine (and_iff_right_of_imp ?_).symm
      rintro held rfl
      exact absent held
  · intro other added
    by_cases same : other = id
    · simp [Call.settle, same] at added
    · simp only [Call.settle, Function.update_of_ne same] at added
      exact (ids other).mpr ⟨same, ready.added other added⟩
  · intro other settled held
    obtain ⟨different, held⟩ := (ids other).mp held
    simp only [Call.settle, Function.update_of_ne different] at settled
    exact different (gone other held settled)

theorem finish_getKey {provider : String} {now : Int} {draw : Nat}
    (kept : ∃ selector, (pool.getKey s.st provider now draw none).2 = { s.st with selector }) :
    ∃ selector, s.finish pool (.getKey provider now draw) =
      { s with st := { s.st with selector } } := by
  obtain ⟨selector, same⟩ := kept
  refine ⟨selector, ?_⟩
  unfold finish
  simp only [Call.serve, Outcome.andThen]
  revert same
  rcases pool.getKey s.st provider now draw none with ⟨result, st'⟩
  rintro rfl
  cases result <;> rfl

/-- Replacing the keys of a pool, loaded or not. -/
theorem finish_setKeys (keys : List EncryptedKey) (ready : Ready pool s (.setKeys keys))
    (unloaded : s.st.isLoaded = false → Untouched s) : Inv (s.finish pool (.setKeys keys)) := by
  obtain ⟨st', ids, ⟨ok, isLoaded, accepts, synced⟩ | ⟨⟨e, failed⟩, isLoaded, rejects, stored⟩⟩ :=
    setKeys_spec pool s.st keys
  · rw [finish_ok (.setKeys keys) ok]
    rw [accepts] at ids
    apply Inv.of_loaded isLoaded synced
    · intro id added
      refine (ids id).mpr ?_
      by_contra dropped
      simp only [Call.settle, dropped, ↓reduceIte] at added
      split at added
      · cases added
      · rename_i absent
        exact absent ((IndexedMap.has_iff _ _).mpr (ready.added id added))
    · intro id removed held
      simp [Call.settle, (ids id).mp held] at removed
  · rw [finish_error (.setKeys keys) failed]
    have harmless := ready.harmless.resolve_left rejects
    have same : ∀ id, id ∈ st'.keysMap.keys ↔ id ∈ s.st.keysMap.keys := fun id =>
      (ids id).trans (harmless id)
    have before := ready.persisted.resolve_left rejects
    have synced : Synced st' := by
      intro id
      rw [stored, before id, same id]
    refine ⟨⟨synced, fun id added => ?_, fun id removed held => ?_⟩, fun no => ?_⟩
    · exact (synced id).mpr ((same id).mpr (ready.added id added))
    · exact rejects (ready.removed id ((same id).mp held) removed)
    · obtain ⟨empty, untouched⟩ := unloaded (isLoaded.symm.trans no)
      refine ⟨List.eq_nil_iff_forall_not_mem.mpr fun id held => ?_, untouched⟩
      have none := (same id).mp held
      rw [empty] at none
      exact List.not_mem_nil none

/-- A call that finds the pool loaded, or does not load it. -/
theorem finish_inv {call : Call} (ready : Ready pool s call)
    (unloaded : s.st.isLoaded = false → Untouched s)
    (loads : call.loads = true → s.st.isLoaded = true) : Inv (s.finish pool call) := by
  cases call with
  | addKey key => exact finish_addKey (loads rfl) key ready
  | addKeys keys => exact finish_addKeys (loads rfl) keys ready
  | removeKey id => exact finish_removeKey (loads rfl) id ready
  | setKeys keys => exact finish_setKeys keys ready unloaded
  | getKey provider now draw =>
    have kept : ∃ selector, (pool.getKey s.st provider now draw none).2 =
        { s.st with selector } := by
      cases blank : isBlank provider with
      | true => exact ⟨s.st.selector, by simp [getKey, blank]⟩
      | false => exact getKey_loaded (loads (by simp [Call.loads, blank])) provider now draw
    obtain ⟨selector, same⟩ := finish_getKey kept
    have synced := ready.persisted.resolve_left id
    rw [same]
    exact ⟨⟨synced, fun id added => (synced id).mpr (ready.added id added),
      fun id removed held => ready.removed id held removed⟩,
      fun no => ⟨(unloaded no).1, (unloaded no).2⟩⟩

/-! ## The load -/

omit [Host] in
/-- A load that accepts every stored key has their ids. -/
theorem restoreKeys_ids (stored : List EncryptedKey) (st : State)
    (valid : ∀ key ∈ stored, isEncryptedKey key = true)
    (ok : (pool.restoreKeys stored st).1 = .ok ()) (id : String) :
    id ∈ (pool.restoreKeys stored st).2.keysMap.keys ↔
      id ∈ stored.map keyId ∨ id ∈ st.keysMap.keys := by
  induction stored generalizing st with
  | nil => simp [restoreKeys]
  | cons key rest ih =>
    have first := valid key List.mem_cons_self
    have next : ∀ other ∈ rest, isEncryptedKey other = true := fun other mem =>
      valid other (List.mem_cons_of_mem key mem)
    rcases pool.assertTenant_cases st key.tenantId (some key.id) with
      ⟨bound, binds, asserted⟩ | ⟨refused, e, asserted⟩
    · simp only [restoreKeys, first, ↓reduceIte, asserted] at ok ⊢
      rw [ih _ next ok, IndexedMap.mem_keys_set, List.map_cons, List.mem_cons]
      exact or_left_comm.trans or_assoc.symm
    · simp only [restoreKeys, first, ↓reduceIte, asserted] at ok
      cases ok

omit [Host] in
theorem restore_restorable {st : State} (restorable : pool.Restorable st) :
    ∃ st', pool.restore st = (.ok (), st') ∧ st'.isLoaded = st.isLoaded ∧
      storedIds st' = storedIds st ∧
      ∀ id, id ∈ st'.keysMap.keys ↔ id ∈ storedIds st ∨ id ∈ st.keysMap.keys := by
  obtain ⟨tenantId, eq⟩ := pool.restoreTenant_eq st
  unfold restore
  cases found : st.storedKeys with
  | none =>
    rw [eq]
    simp only [found]
    exact ⟨_, rfl, rfl, by simp [storedIds, found], fun id => by simp [storedIds, found]⟩
  | some stored =>
    obtain ⟨valid, ok⟩ := restorable stored found
    have ids := restoreKeys_ids stored (pool.restoreTenant st) valid ok
    obtain ⟨bound, keysMap, spec⟩ := pool.restoreKeys_spec stored (pool.restoreTenant st)
    rw [eq] at ids spec ok ⊢
    simp only [found] at ids spec ok ⊢
    revert ids spec ok
    rcases pool.restoreKeys stored { st with tenantId, storedKeys := some stored } with
      ⟨result, st'⟩
    intro ids spec ok
    obtain rfl : result = .ok () := ok
    obtain rfl := spec
    refine ⟨_, rfl, rfl, by simp [storedIds, found, registerAll], fun id => ?_⟩
    rw [storedIds, found]
    exact ids id

omit [Host] in
/-- The rows of a query stand beside what the map holds, and alone in storage. -/
theorem fillRows_spec (st : State) (db : Option (List KeyRow)) :
    (fillRows st db).isLoaded = true ∧ (fillRows st db).tenantId = st.tenantId ∧
      (∀ id, id ∈ (fillRows st db).keysMap.keys ↔
        id ∈ (db.getD []).map KeyRow.id ∨ id ∈ st.keysMap.keys) ∧
      storedIds (fillRows st db) =
        if (db.getD []).map KeyRow.id = [] then storedIds st
        else (db.getD []).map KeyRow.id := by
  rcases db with _ | _ | ⟨row, rows⟩
  · exact ⟨rfl, rfl, fun id => by simp [fillRows], rfl⟩
  · exact ⟨rfl, rfl, fun id => by simp [fillRows], rfl⟩
  · have ids : ((row :: rows).map (rowKey st)).map keyId = (row :: rows).map KeyRow.id :=
      List.map_map
    refine ⟨rfl, rfl, fun id => ?_, ?_⟩
    · refine (IndexedMap.mem_keys_setAll _ _ _).trans ?_
      rw [ids]
      rfl
    · exact ids

/-- A call, on a pool that is in step once it is loaded. -/
theorem call_inv {database : Bool} {call : Call}
    (consistent : s.st.isLoaded = true → Consistent s)
    (unloaded : s.st.isLoaded = false → Untouched s)
    (safe : s.Safe pool database (.call call)) : Inv (s.step pool database (.call call)) := by
  simp only [Safe] at safe
  simp only [step]
  split
  · rename_i immediate
    rw [if_pos immediate] at safe
    refine finish_inv ⟨safe.2, fun id added => ?_, fun id held removed => ?_, safe.1⟩ unloaded ?_
    · cases loaded : s.st.isLoaded with
      | true =>
        have before := consistent loaded
        exact (before.persisted id).mp (before.added id added)
      | false => cases ((unloaded loaded).untouched id).symm.trans added
    · cases loaded : s.st.isLoaded with
      | true => exact absurd held ((consistent loaded).removed id removed)
      | false => cases ((unloaded loaded).untouched id).symm.trans removed
    · intro loads
      simpa [loads] using immediate
  · rename_i waits
    rw [if_neg waits] at safe
    have no : s.st.isLoaded = false := by
      cases loaded : s.st.isLoaded with
      | true => simp [loaded] at waits
      | false => rfl
    obtain ⟨restorable, harmless⟩ := safe
    obtain ⟨empty, untouched⟩ := unloaded no
    obtain ⟨st', restored, isLoaded, stored, ids⟩ := restore_restorable restorable
    have synced : Synced st' := by
      intro id
      rw [stored, ids id, empty]
      simp
    rw [restored] at harmless
    simp only [restored]
    split
    · rename_i suspended
      have none : st'.keysMap.keys = [] := (IndexedMap.size_eq_zero _).mp suspended.1
      refine ⟨⟨synced, fun id added => ?_, fun id removed => ?_⟩, fun _ => ⟨none, untouched⟩⟩
      · cases (untouched id).symm.trans added
      · cases (untouched id).symm.trans removed
    · rename_i goes
      have harmless := harmless.resolve_left fun ⟨asks, nothing⟩ => goes ⟨?_, asks⟩
      · have same : (· ∈ storedIds s.st) = (· ∈ st'.keysMap.keys) := by
          funext id
          rw [← stored]
          exact propext (synced id)
        rw [same] at harmless
        refine finish_inv ⟨Or.inr synced, fun id added => ?_, fun id _ removed => ?_, harmless⟩
          (fun no => by cases no) fun _ => rfl
        · cases (untouched id).symm.trans added
        · cases (untouched id).symm.trans removed
      · rw [IndexedMap.size_eq_zero]
        rw [nothing] at stored
        refine List.eq_nil_iff_forall_not_mem.mpr fun id held => ?_
        have kept := (synced id).mpr held
        rw [stored] at kept
        exact List.not_mem_nil kept

/-- The query of a waiting call is answered. -/
theorem answered_inv {database : Bool} {index : Nat} {db : Option (List KeyRow)} (inv : Inv s)
    (safe : s.Safe pool database (.answered index db)) :
    Inv (s.step pool database (.answered index db)) := by
  obtain ⟨call, waits, rows, back, harmless⟩ := safe
  obtain ⟨isLoaded, tenant, ids, stored⟩ := fillRows_spec s.st db
  have same : (fun id => id ∈ (db.getD []).map KeyRow.id ∨ id ∈ s.st.keysMap.keys) =
      (· ∈ (fillRows s.st db).keysMap.keys) := by
    funext id
    exact propext (ids id).symm
  have before := inv.consistent
  rw [same] at rows harmless
  rw [← tenant] at rows back harmless
  simp only [step, waits]
  refine finish_inv ⟨?_, fun id added => ?_, fun id held removed => ?_, harmless⟩ ?_
    fun _ => isLoaded
  · rcases rows with none | persists | covered
    · refine Or.inr fun id => ?_
      rw [stored, if_pos none, before.persisted id, ids id, none]
      simp
    · exact Or.inl persists
    · refine Or.inr fun id => ?_
      rw [stored, ids id]
      split
      · rename_i none
        rw [before.persisted id, none]
        simp
      · exact (or_iff_left_of_imp (covered id)).symm
  · exact (ids id).mpr (Or.inr ((before.persisted id).mp (before.added id added)))
  · rcases (ids id).mp held with row | kept
    · exact back id row removed
    · exact absurd kept (before.removed id removed)
  · exact fun no => absurd (isLoaded.symm.trans no) Bool.noConfusion

theorem step_inv {database : Bool} (s : Loading) (event : LoadEvent) (inv : Inv s)
    (safe : s.Safe pool database event) : Inv (s.step pool database event) := by
  cases event with
  | call call => exact call_inv (fun _ => inv.consistent) inv.unloaded safe
  | answered index db => exact answered_inv inv safe

def start (st : State) : Loading := ⟨st, [], fun _ => .untouched⟩

/-- In every run of safe steps of a pool that nothing has loaded, whatever its storage
holds, once the calls have returned the persisted list has the ids of the map, every added
id that was not removed since, and no removed id. -/
theorem persisted_agrees (pool : KeyPool) (database : Bool) (st : State)
    (unloaded : st.isLoaded = false) (empty : st.keysMap.keys = []) (call : Call)
    (events : List LoadEvent)
    (safe : Transition.Guarded (step pool database) (Safe pool database) (start st)
      (.call call :: events)) :
    ∀ s ∈ Transition.reached (step pool database) ((start st).step pool database (.call call))
      events, s.pending = [] → Consistent s := by
  have first : Inv ((start st).step pool database (.call call)) :=
    call_inv (fun loaded => absurd (unloaded.symm.trans loaded) Bool.noConfusion)
      (fun _ => ⟨empty, fun _ => rfl⟩) safe.1
  intro s reached _
  exact (Transition.invariant_of_guarded step_inv first safe.2 s reached).consistent

end Loading

end Calls

section Examples

attribute [local instance] asciiHost

namespace Loading

def llamaRow : KeyRow where
  id := "k1"
  tenantId := "acme"
  provider := "groq"
  encryptedKeyB64 := "c"
  nonceB64 := "n"
  rpmLimit := 30
  rpdLimit := 14400
  status := "Healthy"

/-- The load of `removeKey` comes first, and that of `addKey` finds no row. -/
theorem persisted_agrees_acme :
    Consistent ([.call (.removeKey "k1"), .answered 1 (some [llamaRow]), .answered 0 none].foldl
      (step acmePool true)
      ((start acmePool.start).step acmePool true (.call (.addKey (groqKey "k2"))))) := by
  have restorable : acmePool.Restorable acmePool.start := fun stored found => by cases found
  refine persisted_agrees acmePool true acmePool.start rfl rfl (.addKey (groqKey "k2"))
    [.call (.removeKey "k1"), .answered 1 (some [llamaRow]), .answered 0 none]
    ⟨?_, ?_, ?_, ?_, trivial⟩ _ (Transition.foldl_mem_reached _ _ _) (by decide)
  · exact ⟨restorable, Or.inl ⟨rfl, rfl⟩⟩
  · exact ⟨restorable, Or.inl ⟨rfl, rfl⟩⟩
  · refine ⟨.removeKey "k1", rfl, Or.inr (Or.inr (by decide)), ?_, trivial⟩
    intro id _ removed
    cases removed
  · exact ⟨.addKey (groqKey "k2"), rfl, Or.inl rfl, fun id row => absurd row List.not_mem_nil,
      trivial⟩

/-- A load answered late brings back the key that `removeKey` has removed, and one drops the
key that `addKey` has added from the persisted list. -/
theorem persisted_disagrees :
    (∃ s ∈ Transition.reached (step acmePool true) (start acmePool.start)
        [.call (.removeKey "k1"), .call (.getKey "groq" 0 0), .answered 0 (some [llamaRow]),
          .answered 0 (some [llamaRow])],
      s.pending = [] ∧ s.fate "k1" = .removed ∧ "k1" ∈ s.st.keysMap.keys) ∧
    ∃ s ∈ Transition.reached (step acmePool true) (start acmePool.start)
        [.call (.addKey (groqKey "k2")), .call (.getKey "groq" 0 0),
          .answered 0 (some [llamaRow]), .answered 0 (some [llamaRow])],
      s.pending = [] ∧ s.fate "k2" = .added ∧ s.st.keysMap.keys = ["k1", "k2"] ∧
        storedIds s.st = ["k1"] :=
  ⟨⟨_, Transition.foldl_mem_reached _ _ _, by decide⟩,
    ⟨_, Transition.foldl_mem_reached _ _ _, by decide⟩⟩

end Loading

end Examples

end KeyCollective.KeyPool
