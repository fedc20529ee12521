import KeyCollective.Pool.Kept

/-!
# The ids a pool holds

A pool keeps an id in either map or in storage. What holds of the ids posted to it
and of the rows it loads holds of every id it keeps, and so of every id it gives out.
-/

namespace KeyCollective.KeyPool

variable (pool : KeyPool)

def Holding (st : State) (id : String) : Prop :=
  id ∈ st.keysMap.keys ∨ id ∈ st.selector.keysMap.keys ∨
    ∃ stored, st.storedKeys = some stored ∧ id ∈ stored.map keyId

/-- The pool is its own tenant's, and `P` holds of every id it keeps. -/
structure Within (P : String → Prop) (st : State) : Prop where
  tenant : st.tenantId = pool.resolvedTenant
  holding : ∀ id, Holding st id → P id

variable {pool} {P Q : String → Prop} {st : State}

theorem Within.imp (within : pool.Within P st) (weaken : ∀ id, Holding st id → P id → Q id) :
    pool.Within Q st :=
  ⟨within.tenant, fun id held => weaken id held (within.holding id held)⟩

theorem within_start : pool.Within P pool.start := by
  refine ⟨rfl, ?_⟩
  rintro id (held | held | ⟨stored, held, -⟩)
  · exact absurd held List.not_mem_nil
  · exact absurd held List.not_mem_nil
  · cases held

theorem holding_iff (st : State) (id : String) :
    Holding st id ↔ ∃ key, Keeps st key ∧ key.id = id := by
  constructor
  · rintro (held | held | ⟨stored, found, held⟩)
    · obtain ⟨key, mem, same⟩ := List.mem_map.mp held
      exact ⟨key, Or.inl mem, same⟩
    · obtain ⟨key, mem, same⟩ := List.mem_map.mp held
      exact ⟨key, Or.inr (Or.inl mem), same⟩
    · obtain ⟨key, mem, same⟩ := List.mem_map.mp held
      exact ⟨key, Or.inr (Or.inr ⟨stored, found, mem⟩), same⟩
  · rintro ⟨key, held | held | ⟨stored, found, held⟩, rfl⟩
    · exact Or.inl (IndexedMap.key_mem held)
    · exact Or.inr (Or.inl (IndexedMap.key_mem held))
    · exact Or.inr (Or.inr ⟨stored, found, List.mem_map_of_mem held⟩)

/-- What holds of the ids is a property of the keys kept. -/
theorem within_iff :
    pool.Within P st ↔ Bound pool.resolvedTenant (fun key => P key.id) st := by
  constructor
  · intro within
    refine ⟨within.tenant, fun key kept => ?_⟩
    exact within.holding key.id ((holding_iff st key.id).mpr ⟨key, kept, rfl⟩)
  · intro bound
    refine ⟨bound.tenant, fun id held => ?_⟩
    obtain ⟨key, kept, rfl⟩ := (holding_iff st id).mp held
    exact bound.keeps key kept

/-- Every call keeps the ids, when those it posts and those it loads are allowed. -/
theorem within_closed (own : pool.idString ≠ pool.resolvedTenant) {db : Option (List KeyRow)}
    (rows : ∀ rows, db = some rows → ∀ row ∈ rows, P row.id) :
    pool.Closed (pool.Within P) (fun _ => True) (fun _ => True) (fun key => P key.id) db := by
  have same : pool.Within P = Bound pool.resolvedTenant (fun key => P key.id) :=
    funext fun _ => propext within_iff
  rw [same]
  apply bound_closed db own
  · exact fun _ allowed => allowed
  · exact fun loaded found row mem _ _ => rows loaded found row mem

/-- A pool whose memory is dropped, or that is constructed anew, holds no other id. -/
theorem clearMemoryCache_within (within : pool.Within P st) :
    pool.Within P (clearMemoryCache st) := by
  have bound := within_iff.mp within
  exact within_iff.mpr ⟨bound.tenant, fun key kept => bound.keeps key (keeps_clearMemoryCache kept)⟩

theorem construct_within (within : pool.Within P st) : pool.Within P (pool.construct st) := by
  have bound := within_iff.mp within
  exact within_iff.mpr ⟨rfl, fun key kept => bound.keeps key (keeps_construct kept)⟩

variable [Host]

/-- Asking for a key keeps the ids, and the id it gives out is one of them. -/
theorem getKey_within (own : pool.idString ≠ pool.resolvedTenant) {db : Option (List KeyRow)}
    (rows : ∀ rows, db = some rows → ∀ row ∈ rows, P row.id) (within : pool.Within P st)
    (provider : String) (now : Int) (draw : Nat) :
    pool.Within P (pool.getKey st provider now draw db).2 ∧
      ∀ id, (pool.getKey st provider now draw db).1 = .ok id → P id := by
  have closed := within_closed own rows
  refine ⟨(closed.getKey_sat provider now draw within).state, ?_⟩
  intro id dispatched
  have loaded := (closed.load st within).state
  obtain ⟨-, registered, -⟩ := pool.getKey_registered (Prod.ext dispatched rfl)
  exact loaded.holding id (Or.inr (Or.inl registered))

end KeyCollective.KeyPool
