import KeyCollective.Lib.Transition
import KeyCollective.Pool.KeyPool

/-!
# The pool's map and the selector's map

Both hold the pool's keys. Every operation is followed from a pool constructed
over empty storage; what a selection can return is a key the selector holds.
-/

namespace KeyCollective.KeyPool

variable (pool : KeyPool)

inductive Op where
  | addKey (key : EncryptedKey) (db : Option (List KeyRow))
  | addKeys (keys : List EncryptedKey) (db : Option (List KeyRow))
  | setKeys (keys : List EncryptedKey)
  | removeKey (id : String) (db : Option (List KeyRow))
  | clearKeys
  /-- The cache is dropped and the pool reloads itself. -/
  | clearMemoryCache (db : Option (List KeyRow))
deriving DecidableEq, Repr

/-- The state after a call, whether it throws or not. -/
def step (st : State) : Op → State
  | .addKey key db => (pool.addKey st key db).2
  | .addKeys keys db => (pool.addKeys st keys db).2
  | .setKeys keys => (pool.setKeys st keys).2
  | .removeKey id db => (pool.removeKey st id db).2
  | .clearKeys => clearKeys st
  | .clearMemoryCache db => (pool.ensureLoaded (clearMemoryCache st) db).2

/-- Both maps hold the same ids. -/
def Agree (st : State) : Prop :=
  ∀ id, id ∈ st.selector.keysMap.keys ↔ id ∈ st.keysMap.keys

/-- The keys `addKeysSync` accepts before the first rejected one, as they are stored. -/
def acceptedKeys (tenantId : String) : List EncryptedKey → List EncryptedKey
  | [] => []
  | key :: rest =>
    if isEncryptedKey key then
      match pool.bindTenant tenantId key.tenantId with
      | some bound => { key with tenantId := some bound } :: acceptedKeys bound rest
      | none => []
    else []

/-- A reload accepts every stored key. -/
def restores (st : State) (stored : List EncryptedKey) : Prop :=
  (pool.restoreKeys stored (pool.restoreTenant (clearMemoryCache st))).1 = .ok ()

/-- `setKeys` names every key the selector holds. A reload finds stored keys and
accepts them all, or finds rows in the database, or the selector holds nothing. -/
def OpSafe (st : State) : Op → Prop
  | .setKeys keys =>
    ∀ id ∈ st.selector.keysMap.keys, id ∈ (pool.acceptedKeys st.tenantId keys).map keyId
  | .clearMemoryCache db =>
    match st.storedKeys with
    | some stored => pool.restores st stored
    | none => (∃ row rows, db = some (row :: rows)) ∨ st.selector.keysMap.keys = []
  | _ => True

/-! ## One lemma per operation -/

/-- What every operation keeps: the maps agree, and only a pool that has stored
nothing is not loaded. -/
structure Kept (st : State) : Prop where
  agree : Agree st
  unloaded : st.isLoaded = false → st.storedKeys = none

theorem agree_registerAll (st : State) : Agree (registerAll st) := by
  intro id
  simp only [registerAll, KeySelector.setKeys, IndexedMap.mem_keys_setAll, IndexedMap.keys_empty,
    List.not_mem_nil, or_false]
  rfl

theorem agree_loadRows (st : State) (agree : Agree st) (db : Option (List KeyRow)) :
    Agree (loadRows st db) := by
  unfold loadRows
  split
  · split
    · exact agree_registerAll _
    · exact agree
  · exact agree

theorem assertTenant_cases (st : State) (target : Option String) (resource : Option String) :
    (∃ tenantId, pool.bindTenant st.tenantId target = some tenantId ∧
      pool.assertTenant st target resource = (.ok (), { st with tenantId })) ∨
    (pool.bindTenant st.tenantId target = none ∧
      ∃ e, pool.assertTenant st target resource = (.error e, st)) := by
  unfold assertTenant
  cases bound : pool.bindTenant st.tenantId target with
  | some tenantId => exact Or.inl ⟨tenantId, rfl, rfl⟩
  | none => exact Or.inr ⟨rfl, _, rfl⟩

/-- Adding keys puts the accepted ones into both maps and leaves everything else but
the tenant as it was. -/
theorem addKeysSync_spec (keys : List EncryptedKey) (st : State) :
    ∃ tenantId, (pool.addKeysSync keys st).2 =
      { st with
        tenantId
        keysMap := st.keysMap.setAll (pool.acceptedKeys st.tenantId keys)
        selector := { st.selector with
          keysMap := st.selector.keysMap.setAll (pool.acceptedKeys st.tenantId keys) } } := by
  induction keys generalizing st with
  | nil => exact ⟨st.tenantId, rfl⟩
  | cons key rest ih =>
    by_cases valid : isEncryptedKey key = true
    · rcases pool.assertTenant_cases st key.tenantId (some key.id) with
        ⟨bound, binds, asserted⟩ | ⟨refused, e, asserted⟩
      · simp only [addKeysSync, addKeySync, acceptedKeys, valid, ↓reduceIte, asserted, binds,
          IndexedMap.setAll_cons]
        exact ih _
      · simp only [addKeysSync, addKeySync, acceptedKeys, valid, ↓reduceIte, asserted, refused]
        exact ⟨st.tenantId, rfl⟩
    · simp only [addKeysSync, addKeySync, acceptedKeys, valid]
      exact ⟨st.tenantId, rfl⟩

theorem addKeySync_eq (st : State) (key : EncryptedKey) :
    (pool.addKeySync st key).2 = (pool.addKeysSync [key] st).2 := by
  simp only [addKeysSync]
  split <;> simp_all

/-- Restoring keys changes nothing but the tenant and the pool's own map. -/
theorem restoreKeys_spec (stored : List EncryptedKey) (st : State) :
    ∃ tenantId keysMap, (pool.restoreKeys stored st).2 = { st with tenantId, keysMap } := by
  induction stored generalizing st with
  | nil => exact ⟨st.tenantId, st.keysMap, rfl⟩
  | cons key rest ih =>
    by_cases valid : isEncryptedKey key = true
    · rcases pool.assertTenant_cases st key.tenantId (some key.id) with
        ⟨bound, binds, asserted⟩ | ⟨refused, e, asserted⟩
      · simp only [restoreKeys, valid, ↓reduceIte, asserted]
        obtain ⟨tenantId, keysMap, eq⟩ := ih
          { st with
            tenantId := bound
            keysMap := st.keysMap.set { key with tenantId := some bound } }
        exact ⟨tenantId, keysMap, eq⟩
      · simp only [restoreKeys, valid, ↓reduceIte, asserted]
        exact ⟨st.tenantId, st.keysMap, rfl⟩
    · simp only [restoreKeys, valid]
      exact ih st

theorem restoreTenant_eq (st : State) :
    ∃ tenantId, pool.restoreTenant st = { st with tenantId } := by
  unfold restoreTenant
  split
  · exact ⟨_, rfl⟩
  · exact ⟨st.tenantId, rfl⟩

/-- Loading keeps the maps in agreement, and afterwards the pool is loaded. -/
theorem ensureLoaded_kept {st : State} (kept : Kept st) (db : Option (List KeyRow)) :
    (pool.ensureLoaded st db).1 = .ok () ∧ (pool.ensureLoaded st db).2.isLoaded = true ∧
      Agree (pool.ensureLoaded st db).2 := by
  unfold ensureLoaded
  cases loaded : st.isLoaded with
  | true => exact ⟨rfl, loaded, kept.agree⟩
  | false =>
    obtain ⟨tenantId, eq⟩ := pool.restoreTenant_eq st
    simp only [Bool.false_eq_true, ↓reduceIte, eq, kept.unloaded loaded, true_and]
    exact agree_loadRows { st with tenantId, storedKeys := none } kept.agree db

/-- Without stored keys a reload brings the maps into agreement when the database
answers with rows or the selector holds nothing. -/
theorem agree_loadRows_cleared (st : State) (cleared : st.keysMap = .empty)
    {db : Option (List KeyRow)}
    (safe : (∃ row rows, db = some (row :: rows)) ∨ st.selector.keysMap.keys = []) :
    Agree (loadRows st db) := by
  rcases safe with ⟨row, rows, rfl⟩ | none
  · have empty : st.keysMap.size = 0 := by rw [cleared]; rfl
    simp only [loadRows, empty, ↓reduceIte]
    exact agree_registerAll { st with keysMap := st.keysMap.setAll ((row :: rows).map (rowKey st)) }
  · refine agree_loadRows st (fun id => ?_) db
    rw [none, cleared]
    rfl

/-- A reload after the cache was dropped brings the maps into agreement. -/
theorem reload_kept {st : State} {db : Option (List KeyRow)}
    (safe : pool.OpSafe st (.clearMemoryCache db)) :
    Kept (pool.step st (.clearMemoryCache db)) := by
  have fresh : (clearMemoryCache st).isLoaded = false := rfl
  simp only [step, ensureLoaded, fresh, Bool.false_eq_true, ↓reduceIte]
  obtain ⟨tenantId, bound⟩ := pool.restoreTenant_eq (clearMemoryCache st)
  cases found : st.storedKeys with
  | none =>
    simp only [OpSafe, found] at safe
    have none : (pool.restoreTenant (clearMemoryCache st)).storedKeys = none := by
      rw [bound]; exact found
    simp only [none]
    refine ⟨?_, fun unloaded => absurd unloaded (by simp)⟩
    rw [bound]
    exact agree_loadRows_cleared { clearMemoryCache st with tenantId } rfl safe
  | some stored =>
    simp only [OpSafe, found, restores] at safe
    have some : (pool.restoreTenant (clearMemoryCache st)).storedKeys = some stored := by
      rw [bound]; exact found
    simp only [some]
    split
    · rename_i e left refused
      rw [refused] at safe
      cases safe
    · exact ⟨agree_loadRows _ (agree_registerAll _) db, fun unloaded => absurd unloaded (by simp)⟩

theorem addKeysSync_agree {st : State} (agree : Agree st) (keys : List EncryptedKey) :
    Agree (pool.addKeysSync keys st).2 := by
  obtain ⟨tenantId, eq⟩ := pool.addKeysSync_spec keys st
  intro id
  rw [eq, IndexedMap.mem_keys_setAll, IndexedMap.mem_keys_setAll, agree id]

theorem addKeysSync_isLoaded (keys : List EncryptedKey) (st : State) :
    (pool.addKeysSync keys st).2.isLoaded = st.isLoaded := by
  obtain ⟨tenantId, eq⟩ := pool.addKeysSync_spec keys st
  rw [eq]

theorem Kept.of_loaded {st : State} (agree : Agree st) (loaded : st.isLoaded = true) : Kept st :=
  ⟨agree, fun unloaded => absurd (loaded.symm.trans unloaded) (by simp)⟩

theorem thenPersist_kept {outcome : Outcome Unit} (kept : Kept outcome.2)
    (loaded : outcome.2.isLoaded = true) : Kept (thenPersist outcome).2 := by
  obtain ⟨result, st⟩ := outcome
  cases result with
  | error e => exact kept
  | ok => exact .of_loaded kept.agree loaded

theorem addKeys_kept {st : State} (kept : Kept st) (keys : List EncryptedKey)
    (db : Option (List KeyRow)) : Kept (pool.addKeys st keys db).2 := by
  obtain ⟨ok, loaded, agree⟩ := pool.ensureLoaded_kept kept db
  unfold addKeys
  revert ok loaded agree
  rcases pool.ensureLoaded st db with ⟨result, st'⟩
  rintro rfl loaded agree
  have added := (pool.addKeysSync_isLoaded keys st').trans loaded
  exact thenPersist_kept (.of_loaded (pool.addKeysSync_agree agree keys) added) added

theorem addKey_kept {st : State} (kept : Kept st) (key : EncryptedKey)
    (db : Option (List KeyRow)) : Kept (pool.addKey st key db).2 := by
  obtain ⟨ok, loaded, agree⟩ := pool.ensureLoaded_kept kept db
  unfold addKey
  revert ok loaded agree
  rcases pool.ensureLoaded st db with ⟨result, st'⟩
  rintro rfl loaded agree
  have added := (pool.addKeysSync_isLoaded [key] st').trans loaded
  have agrees := pool.addKeysSync_agree agree [key]
  rw [← addKeySync_eq] at added agrees
  exact thenPersist_kept (.of_loaded agrees added) added

/-- `setKeys` leaves the maps in agreement when it names every registered key. -/
theorem setKeys_kept {st : State} (kept : Kept st) {keys : List EncryptedKey}
    (safe : pool.OpSafe st (.setKeys keys)) : Kept (pool.setKeys st keys).2 := by
  obtain ⟨tenantId, eq⟩ := pool.addKeysSync_spec keys { st with keysMap := .empty }
  have agree : ∀ id,
      id ∈ (st.selector.keysMap.setAll (pool.acceptedKeys st.tenantId keys)).keys ↔
      id ∈ ((IndexedMap.empty : KeysMap).setAll (pool.acceptedKeys st.tenantId keys)).keys := by
    intro id
    rw [IndexedMap.mem_keys_setAll, IndexedMap.mem_keys_setAll]
    constructor
    · rintro (named | registered)
      · exact Or.inl named
      · exact Or.inl (safe id registered)
    · rintro (named | absent)
      · exact Or.inl named
      · exact absurd absent List.not_mem_nil
  unfold setKeys
  revert eq
  rcases pool.addKeysSync keys { st with keysMap := .empty } with ⟨result, st'⟩
  rintro rfl
  cases result with
  | error e => exact ⟨agree, kept.unloaded⟩
  | ok => exact .of_loaded agree rfl

theorem removeKey_kept {st : State} (kept : Kept st) (id : String) (db : Option (List KeyRow)) :
    Kept (pool.removeKey st id db).2 := by
  obtain ⟨ok, loaded, agree⟩ := pool.ensureLoaded_kept kept db
  unfold removeKey
  revert ok loaded agree
  rcases pool.ensureLoaded st db with ⟨result, st'⟩
  rintro rfl loaded agree
  have removed : Agree
      { st' with
        keysMap := st'.keysMap.delete id
        selector := (KeySelector.removeKey st'.selector id).2 } := fun other => by
    simp only [KeySelector.removeKey, IndexedMap.mem_keys_delete, agree other]
  simp only
  split
  · exact .of_loaded removed loaded
  · exact .of_loaded removed loaded

theorem step_kept (st : State) (op : Op) (kept : Kept st) (safe : pool.OpSafe st op) :
    Kept (pool.step st op) := by
  cases op with
  | addKey key db => exact pool.addKey_kept kept key db
  | addKeys keys db => exact pool.addKeys_kept kept keys db
  | setKeys keys => exact pool.setKeys_kept kept safe
  | removeKey id db => exact pool.removeKey_kept kept id db
  | clearKeys => exact .of_loaded (fun id => Iff.rfl) rfl
  | clearMemoryCache db => exact pool.reload_kept safe

/-! ## Dispatch -/

section Dispatch

variable [Host]

/-- A dispatched key is registered with the selector of the pool as loaded. -/
theorem getKey_registered {st st' : State} {provider id : String} {now : Int} {draw : Nat}
    {db : Option (List KeyRow)} (dispatched : pool.getKey st provider now draw db = (.ok id, st')) :
    (pool.ensureLoaded st db).1 = .ok () ∧
      id ∈ (pool.ensureLoaded st db).2.selector.keysMap.keys ∧
      ∃ selector, st' = { (pool.ensureLoaded st db).2 with selector } := by
  unfold getKey at dispatched
  split at dispatched
  · cases dispatched
  revert dispatched
  rcases pool.ensureLoaded st db with ⟨result, loaded⟩
  cases result with
  | error e => intro failed; cases failed
  | ok =>
    simp only
    split
    · rename_i key selected
      rintro ⟨⟩
      have registered := IndexedMap.key_mem (pool.keySelector.selectKey_registered rfl selected)
      exact ⟨trivial, registered, _, rfl⟩
    · intro failed; cases failed
    · intro failed; cases failed

/-- Along every run whose steps are safe the two maps hold the same ids, and a key
that is dispatched is one the pool lists. -/
theorem selector_agrees (ops : List Op)
    (safe : Transition.Guarded pool.step pool.OpSafe pool.start ops) :
    ∀ st ∈ Transition.reached pool.step pool.start ops, Agree st ∧
      ∀ provider now draw db id st', pool.getKey st provider now draw db = (.ok id, st') →
        ∃ listed, (pool.getKeys st' none none).1 = .ok listed ∧ id ∈ listed.map keyId := by
  intro st reached
  have kept : Kept st := Transition.invariant_of_guarded pool.step_kept
    ⟨fun _ => Iff.rfl, fun _ => rfl⟩ safe st reached
  refine ⟨kept.agree, fun provider now draw db id st' dispatched => ?_⟩
  obtain ⟨-, loaded, agree⟩ := pool.ensureLoaded_kept kept db
  obtain ⟨-, registered, selector, rfl⟩ := pool.getKey_registered dispatched
  refine ⟨(pool.ensureLoaded st db).2.keysMap.values, ?_, (agree id).mp registered⟩
  rw [getKeys, ensureLoaded_loaded]
  · rfl
  · exact loaded

end Dispatch

section Examples

attribute [local instance] asciiHost

/-- A tenant's pool with the default breaker and limiter. -/
def acmePool : KeyPool := ⟨"0a1b", "acme", .create {}, .create {}⟩

def groqKey (id : String) : EncryptedKey :=
  { id, tenantId := none, provider := "groq", ciphertext := "c", nonce := "n" }

theorem selector_agrees_acme :
    Agree ([Op.addKey (groqKey "k1") none, .setKeys [groqKey "k1", groqKey "k2"],
      .clearMemoryCache none].foldl acmePool.step acmePool.start) := by
  have safe : Transition.Guarded acmePool.step acmePool.OpSafe acmePool.start
      [Op.addKey (groqKey "k1") none, .setKeys [groqKey "k1", groqKey "k2"],
        .clearMemoryCache none] :=
    ⟨trivial, by simp only [OpSafe]; decide, by rfl, trivial⟩
  exact (acmePool.selector_agrees _ safe _ (Transition.foldl_mem_reached ..)).1

/-- A replaced key stays registered: after `setKeys` names only `k2` the pool lists
`k2` and dispatches `k1`. -/
theorem replaced_key_dispatched :
    ∃ st ∈ Transition.reached acmePool.step acmePool.start
        [.addKey (groqKey "k1") none, .setKeys [groqKey "k2"]],
      (acmePool.getKey st "groq" 0 0 none).1 = .ok "k1" ∧
      (acmePool.getKeys st none none).1 =
        .ok [{ groqKey "k2" with tenantId := some "acme" }] :=
  ⟨_, Transition.foldl_mem_reached _ _ _, by decide, by decide⟩

end Examples

end KeyCollective.KeyPool
