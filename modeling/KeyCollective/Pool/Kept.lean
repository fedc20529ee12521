import KeyCollective.Pool.Eviction
import KeyCollective.Pool.Rpc

/-!
# The keys a pool keeps

A pool keeps a key in either map or in storage. Once it is bound to a tenant it stays
bound, and what holds of the keys posted to it and of the rows it loads, under its
tenant, holds of every key it keeps.
-/

namespace KeyCollective.KeyPool

variable (pool : KeyPool)

def Keeps (st : State) (key : EncryptedKey) : Prop :=
  key ∈ st.keysMap.values ∨ key ∈ st.selector.keysMap.values ∨
    ∃ stored, st.storedKeys = some stored ∧ key ∈ stored

/-- `P` holds of every key the pool keeps. -/
def Keeping (P : EncryptedKey → Prop) (st : State) : Prop := ∀ key, Keeps st key → P key

/-- The pool is the tenant's, and `P` holds of every key it keeps. -/
structure Bound (tenantId : String) (P : EncryptedKey → Prop) (st : State) : Prop where
  tenant : st.tenantId = tenantId
  keeps : Keeping P st

/-- What happens to a pool: a request, or the loss of its memory. -/
inductive Event where
  | request (request : RpcRequest)
  | clearMemoryCache
  | evict

def after [Host] (st : State) : Event → State
  | .request request => (pool.handleKeyPoolRpc st request).2
  | .clearMemoryCache => clearMemoryCache st
  | .evict => pool.construct st

variable {pool} {tenantId : String} {P : EncryptedKey → Prop} {st : State}

theorem not_keeps_start (key : EncryptedKey) : ¬Keeps pool.start key := by
  rintro (held | held | ⟨stored, held, -⟩)
  · exact absurd held List.not_mem_nil
  · exact absurd held List.not_mem_nil
  · cases held

/-- A pool bound to a tenant refuses every other one, and stays as it is. -/
theorem assertTenant_bound (other : st.tenantId ≠ pool.idString) (target : Option String)
    (resource : Option String) :
    (pool.assertTenant st target resource = (.ok (), st) ∧
        (isFalsy target = true ∨ target = some st.tenantId)) ∨
      (∃ e, isIsolation e = true ∧ pool.assertTenant st target resource = (.error e, st)) ∧
        isFalsy target = false ∧ target ≠ some st.tenantId := by
  unfold assertTenant bindTenant
  rw [if_neg other]
  cases falsy : isFalsy target with
  | true => exact Or.inl ⟨rfl, Or.inl rfl⟩
  | false =>
    by_cases same : target = some st.tenantId
    · subst same
      simp only [Bool.false_eq_true, ↓reduceIte]
      exact Or.inl ⟨trivial, Or.inr trivial⟩
    · simp only [Bool.false_eq_true, ↓reduceIte, same]
      exact Or.inr ⟨⟨_, rfl, rfl⟩, trivial, same⟩

/-- The check of a bound pool changes nothing. -/
theorem assertTenant_state (other : st.tenantId ≠ pool.idString) (target : Option String)
    (resource : Option String) : (pool.assertTenant st target resource).2 = st := by
  rcases assertTenant_bound other target resource with ⟨asserted, -⟩ | ⟨⟨e, -, asserted⟩, -⟩
  · rw [asserted]
  · rw [asserted]

theorem Bound.other (bound : Bound tenantId P st) (other : pool.idString ≠ tenantId) :
    st.tenantId ≠ pool.idString :=
  fun same => other (same.symm.trans bound.tenant)

theorem Keeping.setMap (keeping : Keeping P st) {key : EncryptedKey} (holds : P key) :
    Keeping P { st with keysMap := st.keysMap.set key } := by
  rintro kept (held | held)
  · rcases IndexedMap.mem_set held with rfl | held
    · exact holds
    · exact keeping kept (Or.inl held)
  · exact keeping kept (Or.inr held)

theorem Keeping.registerAll (keeping : Keeping P st) : Keeping P (registerAll st) := by
  rintro key (held | held | held)
  · exact keeping key (Or.inl held)
  · rcases IndexedMap.mem_setAll held with held | held
    · exact keeping key (Or.inl held)
    · exact absurd held List.not_mem_nil
  · exact keeping key (Or.inr (Or.inr held))

theorem Keeping.persist (keeping : Keeping P st) : Keeping P (persistKeys st) := by
  rintro key (held | held | ⟨stored, found, held⟩)
  · exact keeping key (Or.inl held)
  · exact keeping key (Or.inr (Or.inl held))
  · cases found
    exact keeping key (Or.inl held)

/-- A key that is added is in both maps. -/
theorem Keeping.put (keeping : Keeping P st) {key : EncryptedKey} (holds : P key) :
    Keeping P { st with
      keysMap := st.keysMap.set key
      selector := KeySelector.addKey st.selector key } := by
  rintro kept (held | held | held)
  · rcases IndexedMap.mem_set held with rfl | held
    · exact holds
    · exact keeping kept (Or.inl held)
  · rcases IndexedMap.mem_set held with rfl | held
    · exact holds
    · exact keeping kept (Or.inr (Or.inl held))
  · exact keeping kept (Or.inr (Or.inr held))

theorem Keeping.clear (keeping : Keeping P st) (isLoaded : Bool) :
    Keeping P { st with keysMap := .empty, isLoaded } := by
  rintro key (held | held)
  · exact absurd held List.not_mem_nil
  · exact keeping key (Or.inr held)

theorem Keeping.delete (keeping : Keeping P st) (id : String) :
    Keeping P { st with
      keysMap := st.keysMap.delete id
      selector := (KeySelector.removeKey st.selector id).2 } := by
  rintro key (held | held | held)
  · exact keeping key (Or.inl (List.mem_filter.mp held).1)
  · exact keeping key (Or.inr (Or.inl (List.mem_filter.mp held).1))
  · exact keeping key (Or.inr (Or.inr held))

theorem Keeping.select (keeping : Keeping P st) {selector : KeySelector.State EncryptedKey}
    (same : selector.keysMap = st.selector.keysMap) : Keeping P { st with selector } := by
  rintro key (held | held | held)
  · exact keeping key (Or.inl held)
  · exact keeping key (Or.inr (Or.inl (same ▸ held)))
  · exact keeping key (Or.inr (Or.inr held))

/-- Either the rows are not used, or every key kept afterwards is one of them or was in
storage before. -/
theorem loadRows_keeps (st : State) (db : Option (List KeyRow)) :
    loadRows st db = st ∨ ∃ rows, db = some rows ∧ (loadRows st db).tenantId = st.tenantId ∧
      ∀ key, Keeps (loadRows st db) key → ∃ row ∈ rows, key = rowKey st row := by
  unfold loadRows
  split
  · rename_i row rest
    split
    · rename_i empty
      have none : st.keysMap.values = [] := List.eq_nil_of_length_eq_zero empty
      refine Or.inr ⟨_, rfl, rfl, ?_⟩
      have fromRows : ∀ key ∈ (st.keysMap.setAll ((row :: rest).map (rowKey st))).values,
          ∃ loaded ∈ row :: rest, key = rowKey st loaded := by
        intro key held
        rcases IndexedMap.mem_setAll held with mapped | held
        · obtain ⟨loaded, mem, rfl⟩ := List.mem_map.mp mapped
          exact ⟨loaded, mem, rfl⟩
        · rw [none] at held
          exact absurd held List.not_mem_nil
      rintro key (held | held | ⟨stored, found, held⟩)
      · exact fromRows key held
      · rcases IndexedMap.mem_setAll held with held | held
        · exact fromRows key held
        · exact absurd held List.not_mem_nil
      · cases found
        obtain ⟨loaded, mem, rfl⟩ := List.mem_map.mp held
        exact ⟨loaded, mem, rfl⟩
    · exact Or.inl rfl
  · exact Or.inl rfl

theorem Keeping.loadRows (keeping : Keeping P st) {db : Option (List KeyRow)}
    (rows : ∀ rows, db = some rows → ∀ row ∈ rows, P (rowKey st row)) :
    Keeping P (loadRows st db) := by
  rcases loadRows_keeps st db with same | ⟨loaded, found, tenant, kept⟩
  · rw [same]
    exact keeping
  · intro key held
    obtain ⟨row, mem, rfl⟩ := kept key held
    exact rows loaded found row mem

theorem Bound.loadRows (bound : Bound tenantId P st) {db : Option (List KeyRow)}
    (rows : ∀ rows, db = some rows → ∀ row ∈ rows, ∀ st, st.tenantId = tenantId →
      P (rowKey st row)) : Bound tenantId P (loadRows st db) := by
  refine ⟨?_, bound.keeps.loadRows fun loaded found row mem =>
    rows loaded found row mem st bound.tenant⟩
  rcases loadRows_keeps st db with same | ⟨-, -, tenant, -⟩
  · rw [same]
    exact bound.tenant
  · exact tenant.trans bound.tenant

theorem Bound.restoreKeys (other : pool.idString ≠ tenantId)
    (retarget : ∀ key, P key → P { key with tenantId := some tenantId })
    {stored : List EncryptedKey} (holds : ∀ key ∈ stored, P key) (bound : Bound tenantId P st) :
    Bound tenantId P (pool.restoreKeys stored st).2 := by
  induction stored generalizing st with
  | nil => exact bound
  | cons key rest ih =>
    have next : ∀ key ∈ rest, P key := fun other mem => holds other (List.mem_cons_of_mem _ mem)
    by_cases valid : isEncryptedKey key = true
    · rcases assertTenant_bound (bound.other other) key.tenantId (some key.id) with
        ⟨asserted, -⟩ | ⟨⟨e, -, asserted⟩, -⟩
      · have restored := retarget key (holds key List.mem_cons_self)
        rw [← bound.tenant] at restored
        simp only [KeyPool.restoreKeys, valid, ↓reduceIte, asserted]
        exact ih next ⟨bound.tenant, bound.keeps.setMap restored⟩
      · simp only [KeyPool.restoreKeys, valid, ↓reduceIte, asserted]
        exact bound
    · simp only [KeyPool.restoreKeys, valid]
      exact ih next bound

theorem restoreTenant_bound (other : st.tenantId ≠ pool.idString) : pool.restoreTenant st = st := by
  rw [restoreTenant, if_neg fun both => other both.2]

/-- A load restores what was stored, and then may take rows. -/
theorem Bound.ensureLoaded_cases (other : pool.idString ≠ tenantId)
    (retarget : ∀ key, P key → P { key with tenantId := some tenantId })
    (db : Option (List KeyRow)) (bound : Bound tenantId P st) :
    ∃ st', Bound tenantId P st' ∧ ((pool.ensureLoaded st db).2 = st' ∨
      (pool.ensureLoaded st db).2 = { KeyPool.loadRows st' db with isLoaded := true }) := by
  unfold KeyPool.ensureLoaded
  cases st.isLoaded with
  | true => exact ⟨st, bound, Or.inl rfl⟩
  | false =>
    simp only [Bool.false_eq_true, ↓reduceIte, restoreTenant_bound (bound.other other)]
    cases found : st.storedKeys with
    | none => exact ⟨st, bound, Or.inr rfl⟩
    | some stored =>
      have holds : ∀ key ∈ stored, P key := fun key mem =>
        bound.keeps key (Or.inr (Or.inr ⟨stored, found, mem⟩))
      have kept := bound.restoreKeys other retarget holds
      simp only
      revert kept
      rcases pool.restoreKeys stored st with ⟨result, st'⟩
      intro kept
      cases result with
      | error e => exact ⟨st', kept, Or.inl rfl⟩
      | ok => exact ⟨KeyPool.registerAll st', ⟨kept.tenant, kept.keeps.registerAll⟩, Or.inr rfl⟩

theorem Bound.ensureLoaded (other : pool.idString ≠ tenantId)
    (retarget : ∀ key, P key → P { key with tenantId := some tenantId })
    {db : Option (List KeyRow)} (rows : ∀ rows, db = some rows → ∀ row ∈ rows, ∀ st,
      st.tenantId = tenantId → P (rowKey st row)) (bound : Bound tenantId P st) :
    Bound tenantId P (pool.ensureLoaded st db).2 := by
  obtain ⟨st', kept, same | loaded⟩ := bound.ensureLoaded_cases other retarget db
  · rw [same]
    exact kept
  · rw [loaded]
    exact ⟨(kept.loadRows rows).tenant, (kept.loadRows rows).keeps⟩

theorem Bound.addKeySync (other : pool.idString ≠ tenantId) {key : EncryptedKey}
    (holds : P { key with tenantId := some tenantId }) (bound : Bound tenantId P st) :
    Bound tenantId P (pool.addKeySync st key).2 := by
  unfold KeyPool.addKeySync
  split
  · rcases assertTenant_bound (bound.other other) key.tenantId (some key.id) with
      ⟨asserted, -⟩ | ⟨⟨e, -, asserted⟩, -⟩
    · rw [asserted]
      simp only [bound.tenant]
      exact ⟨rfl, bound.keeps.put holds⟩
    · rw [asserted]
      exact bound
  · exact bound

/-- What every request to a bound pool keeps. -/
theorem bound_closed (db : Option (List KeyRow)) (other : pool.idString ≠ tenantId)
    (retarget : ∀ key, P key → P { key with tenantId := some tenantId })
    (rows : ∀ rows, db = some rows → ∀ row ∈ rows, ∀ st,
      st.tenantId = tenantId → P (rowKey st row)) :
    pool.Closed (Bound tenantId P) (fun _ => True) (fun _ => True)
      (fun key => P { key with tenantId := some tenantId }) db where
  bind st target resource bound _ := by
    refine ⟨?_, fun _ _ => trivial⟩
    rw [assertTenant_state (bound.other other)]
    exact bound
  load st bound := ⟨bound.ensureLoaded other retarget rows, fun _ _ => trivial⟩
  add st key bound holds := ⟨bound.addKeySync other holds, fun _ _ => trivial⟩
  clear st bound := ⟨bound.tenant, bound.keeps.clear st.isLoaded⟩
  replace st bound := ⟨bound.tenant, bound.keeps.clear true⟩
  persist st bound _ := ⟨bound.tenant, bound.keeps.persist⟩
  delete st id bound := ⟨bound.tenant, bound.keeps.delete id⟩
  select st selector bound same := ⟨bound.tenant, bound.keeps.select same⟩
  other _ _ := trivial

/-! ## Whatever tenant it is bound to -/

variable (pool) in
theorem Keeping.restoreKeys (retarget : ∀ key tenantId, P key → P { key with tenantId })
    {stored : List EncryptedKey} (holds : ∀ key ∈ stored, P key) (keeping : Keeping P st) :
    Keeping P (pool.restoreKeys stored st).2 := by
  induction stored generalizing st with
  | nil => exact keeping
  | cons key rest ih =>
    have next : ∀ key ∈ rest, P key := fun other mem => holds other (List.mem_cons_of_mem _ mem)
    by_cases valid : isEncryptedKey key = true
    · rcases pool.assertTenant_cases st key.tenantId (some key.id) with
        ⟨bound, -, asserted⟩ | ⟨-, e, asserted⟩
      · have before : Keeping P { st with tenantId := bound } := keeping
        simp only [KeyPool.restoreKeys, valid, ↓reduceIte, asserted]
        exact ih next (before.setMap (retarget key _ (holds key List.mem_cons_self)))
      · simp only [KeyPool.restoreKeys, valid, ↓reduceIte, asserted]
        exact keeping
    · simp only [KeyPool.restoreKeys, valid]
      exact ih next keeping

theorem Keeping.ensureLoaded (retarget : ∀ key tenantId, P key → P { key with tenantId })
    {db : Option (List KeyRow)}
    (rows : ∀ rows, db = some rows → ∀ row ∈ rows, ∀ st, P (rowKey st row))
    (keeping : Keeping P st) : Keeping P (pool.ensureLoaded st db).2 := by
  have taken {st : State} (keeping : Keeping P st) : Keeping P (KeyPool.loadRows st db) :=
    keeping.loadRows fun loaded found row mem => rows loaded found row mem st
  unfold KeyPool.ensureLoaded
  cases st.isLoaded with
  | true => exact keeping
  | false =>
    obtain ⟨bound, eq⟩ := pool.restoreTenant_eq st
    simp only [Bool.false_eq_true, ↓reduceIte, eq]
    have before : Keeping P { st with tenantId := bound } := keeping
    cases found : st.storedKeys with
    | none =>
      rw [found] at before
      exact taken before
    | some stored =>
      rw [found] at before
      have kept := before.restoreKeys pool retarget fun key mem =>
        keeping key (Or.inr (Or.inr ⟨stored, found, mem⟩))
      simp only
      revert kept
      rcases pool.restoreKeys stored { st with tenantId := bound, storedKeys := some stored } with
        ⟨result, restored⟩
      intro kept
      cases result with
      | error e => exact kept
      | ok => exact taken kept.registerAll

/-- A new instance, or one whose cache is dropped, keeps no key that was not kept before. -/
theorem keeps_construct {key : EncryptedKey} (kept : Keeps (pool.construct st) key) :
    Keeps st key := by
  rcases kept with held | held | held
  · exact absurd held List.not_mem_nil
  · exact absurd held List.not_mem_nil
  · exact Or.inr (Or.inr held)

theorem keeps_clearMemoryCache {key : EncryptedKey} (kept : Keeps (clearMemoryCache st) key) :
    Keeps st key := by
  rcases kept with held | held
  · exact absurd held List.not_mem_nil
  · exact Or.inr held

end KeyCollective.KeyPool
