import Mathlib.Logic.Function.Basic

/-!
# Write-through caches

Records live in a durable map and are cached in memory under their ids. A load
prefers the cache and falls back to the durable record, or to a fresh one. The
cache can vanish at any time.
-/

structure CachedStore (I K V : Type) where
  cache : I → Option V
  disk : K → Option V

namespace CachedStore

variable {I K V : Type}

def empty : CachedStore I K V := ⟨fun _ => none, fun _ => none⟩

/-- Forget every cached record. -/
def evict (s : CachedStore I K V) : CachedStore I K V := { s with cache := fun _ => none }

variable (address : I → K) (fresh : V)

/-- The durable record of an id. -/
def stored (s : CachedStore I K V) (id : I) : V := (s.disk (address id)).getD fresh

/-- The record a reader sees. -/
def load (s : CachedStore I K V) (id : I) : V := (s.cache id).getD (s.stored address fresh id)

/-- `P` holds of every record, cached or durable. -/
def Everywhere (P : I → V → Prop) (s : CachedStore I K V) : Prop :=
  ∀ id, P id (s.stored address fresh id) ∧ P id (s.load address fresh id)

/-- Two stores hold the same cached and durable record of an id. -/
def AgreeAt (id : I) (s t : CachedStore I K V) : Prop :=
  s.cache id = t.cache id ∧ s.disk (address id) = t.disk (address id)

variable {address fresh}

theorem AgreeAt.refl (id : I) (s : CachedStore I K V) : AgreeAt address id s s := ⟨rfl, rfl⟩

theorem AgreeAt.trans {id : I} {s t u : CachedStore I K V} (st : AgreeAt address id s t)
    (tu : AgreeAt address id t u) : AgreeAt address id s u :=
  ⟨st.1.trans tu.1, st.2.trans tu.2⟩

theorem AgreeAt.stored {id : I} {s t : CachedStore I K V} (agree : AgreeAt address id s t) :
    s.stored address fresh id = t.stored address fresh id := by
  rw [CachedStore.stored, CachedStore.stored, agree.2]

theorem AgreeAt.load {id : I} {s t : CachedStore I K V} (agree : AgreeAt address id s t) :
    s.load address fresh id = t.load address fresh id := by
  rw [CachedStore.load, CachedStore.load, agree.1, agree.stored]

theorem Everywhere.empty {P : I → V → Prop} (h : ∀ id, P id fresh) :
    Everywhere address fresh P CachedStore.empty := fun id => ⟨h id, h id⟩

theorem Everywhere.imp {P Q : I → V → Prop} {s : CachedStore I K V}
    (h : ∀ id v, P id v → Q id v) (all : Everywhere address fresh P s) :
    Everywhere address fresh Q s := fun id => ⟨h _ _ (all id).1, h _ _ (all id).2⟩

theorem Everywhere.evict {P : I → V → Prop} {s : CachedStore I K V}
    (all : Everywhere address fresh P s) : Everywhere address fresh P s.evict :=
  fun id => ⟨(all id).1, (all id).1⟩

section Writes

variable [DecidableEq I]

def setCache (s : CachedStore I K V) (id : I) (v : V) : CachedStore I K V :=
  { s with cache := Function.update s.cache id (some v) }

@[simp] theorem stored_setCache (s : CachedStore I K V) (id other : I) (v : V) :
    (s.setCache id v).stored address fresh other = s.stored address fresh other := rfl

@[simp] theorem load_setCache_self (s : CachedStore I K V) (id : I) (v : V) :
    (s.setCache id v).load address fresh id = v := by
  simp [load, setCache]

theorem agreeAt_setCache (s : CachedStore I K V) {id other : I} (v : V) (h : other ≠ id) :
    AgreeAt address other (s.setCache id v) s :=
  ⟨Function.update_of_ne h _ _, rfl⟩

/-- Caching a record drops none. -/
theorem isSome_setCache {s : CachedStore I K V} {id : I} (cached : (s.cache id).isSome)
    (other : I) (v : V) : ((s.setCache other v).cache id).isSome := by
  by_cases same : id = other
  · subst same
    simp [setCache]
  · simp only [setCache, Function.update_of_ne same]
    exact cached

theorem Everywhere.setCache {P : I → V → Prop} {s : CachedStore I K V} {id : I} {v : V}
    (all : Everywhere address fresh P s) (h : P id v) :
    Everywhere address fresh P (s.setCache id v) := by
  intro other
  refine ⟨(all other).1, ?_⟩
  by_cases same : other = id
  · subst same
    rwa [load_setCache_self]
  · rw [(agreeAt_setCache s v same).load]
    exact (all other).2

variable [DecidableEq K]

variable (address) in
/-- Write a record through to the durable map. -/
def save (s : CachedStore I K V) (id : I) (v : V) : CachedStore I K V :=
  ⟨Function.update s.cache id (some v), Function.update s.disk (address id) (some v)⟩

@[simp] theorem stored_save_self (s : CachedStore I K V) (id : I) (v : V) :
    (s.save address id v).stored address fresh id = v := by
  simp [stored, save]

@[simp] theorem load_save_self (s : CachedStore I K V) (id : I) (v : V) :
    (s.save address id v).load address fresh id = v := by
  simp [load, save]

theorem agreeAt_save (inj : Function.Injective address) (s : CachedStore I K V)
    {id other : I} (v : V) (h : other ≠ id) : AgreeAt address other (s.save address id v) s :=
  ⟨Function.update_of_ne h _ _, Function.update_of_ne (inj.ne h) _ _⟩

/-- After writing one record through, `Q` holds everywhere when it holds of that
record and follows from `P` for every other one. -/
theorem Everywhere.save {P Q : I → V → Prop} {s : CachedStore I K V} {id : I} {v : V}
    (inj : Function.Injective address) (all : Everywhere address fresh P s) (h : Q id v)
    (others : ∀ other w, other ≠ id → P other w → Q other w) :
    Everywhere address fresh Q (s.save address id v) := by
  intro other
  by_cases same : other = id
  · subst same
    rw [stored_save_self, load_save_self]
    exact ⟨h, h⟩
  · rw [(agreeAt_save inj s v same).stored, (agreeAt_save inj s v same).load]
    exact ⟨others _ _ same (all other).1, others _ _ same (all other).2⟩

end Writes

end CachedStore
