import KeyCollective.Lib.BulkSet
import KeyCollective.Pool.Overlap

/-!
# Bulk updates that are rejected

`addKeys` and `setKeys` take a list of keys, and the first one that is invalid or of another
tenant throws. What stands before it in the list has been added by then, and `setKeys` has
emptied the map.
-/

namespace KeyCollective.KeyPool

inductive BulkCall where
  | addKeys (keys : List EncryptedKey)
  | setKeys (keys : List EncryptedKey)

variable (pool : KeyPool) (st : State) (db : Option (List KeyRow))

namespace BulkCall

def run : BulkCall → Outcome Unit
  | .addKeys keys => pool.addKeys st keys db
  | .setKeys keys => pool.setKeys st keys

/-- Some element is rejected when its turn comes. -/
def Rejected : BulkCall → Prop
  | .addKeys keys => ¬pool.Accepts (pool.ensureLoaded st db).2.tenantId keys
  | .setKeys keys => ¬pool.Accepts st.tenantId keys

/-- What stands before the first rejected key is held already, as it would be kept: by a loaded
pool in the map and in the selector, and for `setKeys` nothing else is in the map. A pool that
is not loaded holds what loading and then those keys leave, and nothing is persisted by loading;
or the load is refused itself, and leaves the map as it was. -/
def Absorbed : BulkCall → Prop
  | .addKeys keys =>
    let loaded := pool.ensureLoaded st db
    let added := pool.acceptedKeys loaded.2.tenantId keys
    (∃ e, loaded.1 = .error e) ∧ loaded.2.keysMap = st.keysMap ∨
      loaded.1 = .ok () ∧ loaded.2.storedKeys = st.storedKeys ∧
        IndexedMap.Absorbs loaded.2.keysMap added st.keysMap ∧
        IndexedMap.Absorbs loaded.2.selector.keysMap added st.selector.keysMap
  | .setKeys keys =>
    let added := pool.acceptedKeys st.tenantId keys
    IndexedMap.Absorbs .empty added st.keysMap ∧
      IndexedMap.Absorbs st.selector.keysMap added st.selector.keysMap

end BulkCall

/-- A call throws and leaves the keys as they were, in all three places. -/
structure Atomic (outcome : Outcome Unit) : Prop where
  throws : ∃ e, outcome.1 = .error e
  keysMap : outcome.2.keysMap = st.keysMap
  selector : outcome.2.selector.keysMap = st.selector.keysMap
  storedKeys : outcome.2.storedKeys = st.storedKeys

variable {pool st db}

/-- A load that is refused has copied stored keys into the map and done nothing else. -/
theorem ensureLoaded_refused {e : PoolError} (refused : (pool.ensureLoaded st db).1 = .error e) :
    (pool.ensureLoaded st db).2.selector = st.selector ∧
      (pool.ensureLoaded st db).2.storedKeys = st.storedKeys := by
  obtain ⟨tenantId, bound⟩ := pool.restoreTenant_eq st
  unfold ensureLoaded at refused ⊢
  split at refused
  case isTrue => cases refused
  case isFalse unloaded =>
    rw [if_neg unloaded]
    cases stored : (pool.restoreTenant st).storedKeys with
    | none => simp [stored] at refused
    | some keys =>
      obtain ⟨tenantId', keysMap, left⟩ := pool.restoreKeys_spec keys (pool.restoreTenant st)
      obtain ⟨result, run⟩ : ∃ result, pool.restoreKeys keys (pool.restoreTenant st) =
          (result, { pool.restoreTenant st with tenantId := tenantId', keysMap }) :=
        ⟨_, Prod.ext rfl left⟩
      cases result with
      | ok => simp [stored, run] at refused
      | error =>
        simp only [stored, run]
        rw [bound]
        exact ⟨rfl, stored.symm.trans (by rw [bound])⟩

/-- The keys before the first rejected one are set in both maps, and that is all. -/
theorem addKeysSync_rejected {keys : List EncryptedKey}
    (rejected : ¬pool.Accepts st.tenantId keys) :
    (∃ e, (pool.addKeysSync keys st).1 = .error e) ∧
      (pool.addKeysSync keys st).2.keysMap =
        st.keysMap.setAll (pool.acceptedKeys st.tenantId keys) ∧
      (pool.addKeysSync keys st).2.selector.keysMap =
        st.selector.keysMap.setAll (pool.acceptedKeys st.tenantId keys) ∧
      (pool.addKeysSync keys st).2.storedKeys = st.storedKeys := by
  obtain ⟨tenantId, left⟩ := pool.addKeysSync_spec keys st
  have thrown := (addKeysSync_accepts pool keys st).resolve_left fun ok => rejected ok.2
  refine ⟨thrown.1, ?_⟩
  rw [left]
  exact ⟨rfl, rfl, rfl⟩

theorem thenPersist_error {outcome : Outcome Unit} (thrown : ∃ e, outcome.1 = .error e) :
    thenPersist outcome = outcome := by
  obtain ⟨result, st'⟩ := outcome
  obtain ⟨e, rfl⟩ := thrown
  rfl

theorem addKeys_atomic_iff {keys : List EncryptedKey}
    (rejected : (BulkCall.addKeys keys).Rejected pool st db) :
    Atomic st (pool.addKeys st keys db) ↔ (BulkCall.addKeys keys).Absorbed pool st db := by
  simp only [BulkCall.Rejected] at rejected
  simp only [BulkCall.Absorbed]
  cases loaded : (pool.ensureLoaded st db).1 with
  | error e =>
    obtain ⟨selector, storedKeys⟩ := ensureLoaded_refused loaded
    have call : pool.addKeys st keys db = (.error e, (pool.ensureLoaded st db).2) := by
      have pair : pool.ensureLoaded st db = (.error e, (pool.ensureLoaded st db).2) :=
        Prod.ext loaded rfl
      rw [addKeys, pair]
    rw [call]
    constructor
    · intro atomic
      exact .inl ⟨⟨e, rfl⟩, atomic.keysMap⟩
    · rintro (⟨-, same⟩ | ⟨absurd, -⟩)
      · exact ⟨⟨e, rfl⟩, same, congrArg _ selector, storedKeys⟩
      · cases absurd
  | ok =>
    obtain ⟨thrown, keysMap, selector, storedKeys⟩ := addKeysSync_rejected rejected
    have call : pool.addKeys st keys db = pool.addKeysSync keys (pool.ensureLoaded st db).2 := by
      have pair : pool.ensureLoaded st db = (.ok (), (pool.ensureLoaded st db).2) :=
        Prod.ext loaded rfl
      rw [← thenPersist_error thrown, addKeys, pair]
    rw [call]
    constructor
    · intro atomic
      refine .inr ⟨rfl, storedKeys.symm.trans atomic.storedKeys, ?_, ?_⟩
      · exact IndexedMap.setAll_eq_iff.mp (keysMap.symm.trans atomic.keysMap)
      · exact IndexedMap.setAll_eq_iff.mp (selector.symm.trans atomic.selector)
    · rintro (⟨⟨e, absurd⟩, -⟩ | ⟨-, persisted, absorbed, registered⟩)
      · cases absurd
      · exact ⟨thrown, keysMap.trans (IndexedMap.setAll_eq_iff.mpr absorbed),
          selector.trans (IndexedMap.setAll_eq_iff.mpr registered), storedKeys.trans persisted⟩

theorem setKeys_atomic_iff {keys : List EncryptedKey}
    (rejected : ¬pool.Accepts st.tenantId keys) :
    Atomic st (pool.setKeys st keys) ↔ (BulkCall.setKeys keys).Absorbed pool st db := by
  let cleared : State := { st with keysMap := .empty }
  have refused : ¬pool.Accepts cleared.tenantId keys := rejected
  obtain ⟨⟨e, thrown⟩, keysMap, selector, storedKeys⟩ := addKeysSync_rejected refused
  have call : pool.setKeys st keys = pool.addKeysSync keys cleared := by
    have pair : pool.addKeysSync keys cleared = (.error e, (pool.addKeysSync keys cleared).2) :=
      Prod.ext thrown rfl
    rw [setKeys]
    simp only [cleared] at pair ⊢
    rw [pair]
  rw [call]
  constructor
  · intro atomic
    exact ⟨IndexedMap.setAll_eq_iff.mp (keysMap.symm.trans atomic.keysMap),
      IndexedMap.setAll_eq_iff.mp (selector.symm.trans atomic.selector)⟩
  · rintro ⟨absorbed, registered⟩
    exact ⟨⟨e, thrown⟩, keysMap.trans (IndexedMap.setAll_eq_iff.mpr absorbed),
      selector.trans (IndexedMap.setAll_eq_iff.mpr registered), storedKeys⟩

/-- On a loaded pool a rejected `addKeys` leaves everything as it was exactly when each key
before the first rejected one was held already, in its last version. -/
theorem addKeys_absorbed_loaded (loaded : st.isLoaded = true) (keys : List EncryptedKey) :
    (BulkCall.addKeys keys).Absorbed pool st db ↔
      ∀ key ∈ pool.acceptedKeys st.tenantId keys,
        st.keysMap.get? key.id =
            IndexedMap.latest keyId (pool.acceptedKeys st.tenantId keys) key.id ∧
          st.selector.keysMap.get? key.id =
            IndexedMap.latest keyId (pool.acceptedKeys st.tenantId keys) key.id := by
  simp only [BulkCall.Absorbed, pool.ensureLoaded_loaded loaded db, reduceCtorEq, exists_false,
    false_and, true_and, false_or, IndexedMap.absorbs_self_iff]
  exact forall₂_and.symm

/-- A rejected bulk update leaves the keys as they were, in all three places, exactly when what
it had added by then was there. -/
theorem bulk_atomic_iff (pool : KeyPool) (st : State) (db : Option (List KeyRow)) (call : BulkCall)
    (rejected : call.Rejected pool st db) :
    Atomic st (call.run pool st db) ↔ call.Absorbed pool st db := by
  cases call with
  | addKeys keys => exact addKeys_atomic_iff rejected
  | setKeys keys => exact setKeys_atomic_iff rejected

/-- A key of another tenant. -/
def foreignKey : EncryptedKey := { groqKey "k9" with tenantId := some "mallory" }

/-- A pool of `acme` that holds one key. -/
def oneKeyState : State := (acmePool.addKey acmePool.start (groqKey "k1") none).2

theorem bulk_atomic_first : Atomic oneKeyState
    ((BulkCall.addKeys [foreignKey, groqKey "k2"]).run acmePool oneKeyState none) :=
  (bulk_atomic_iff acmePool oneKeyState none (.addKeys [foreignKey, groqKey "k2"])
    (by unfold BulkCall.Rejected Accepts acceptedIds; decide)).mpr
    ((addKeys_absorbed_loaded (by decide) _).mpr (by decide))

/-- The key before the foreign one stays in memory, and `setKeys` has dropped the one held. -/
theorem bulk_update_partial :
    ¬Atomic oneKeyState
        ((BulkCall.addKeys [groqKey "k2", foreignKey]).run acmePool oneKeyState none) ∧
      ¬Atomic oneKeyState ((BulkCall.setKeys [foreignKey]).run acmePool oneKeyState none) := by
  have added : ((BulkCall.addKeys [groqKey "k2", foreignKey]).run acmePool oneKeyState
      none).2.keysMap.values ≠ oneKeyState.keysMap.values := by
    decide
  have cleared : ((BulkCall.setKeys [foreignKey]).run acmePool oneKeyState
      none).2.keysMap.values ≠ oneKeyState.keysMap.values := by
    decide
  exact ⟨fun atomic => added (congrArg _ atomic.keysMap),
    fun atomic => cleared (congrArg _ atomic.keysMap)⟩

end KeyCollective.KeyPool
