import KeyCollective.Lib.CachedStore
import Mathlib.Order.Basic

/-!
# Records that age

A reader finds a record as old as the instant it reads at. What a cached record has aged
by need not be written through: the durable record ages to the same. A store is durable
when that holds of every record; forgetting its cache then shows to no later reader.
-/

namespace CachedStore

/-- What time alone makes of a record. Aging by way of an earlier instant is A. -/
structure Aging (T V : Type) [Preorder T] where
  age : T → V → V
  age_age : ∀ {now later : T} (v : V), now ≤ later → age later (age now v) = age later v

namespace Aging

variable {T I K V : Type} [Preorder T] (A : Aging T V) (address : I → K) (fresh : V)

/-- The record a reader finds at `now`. -/
def seen (s : CachedStore I K V) (id : I) (now : T) : V := A.age now (s.load address fresh id)

/-- A reader at `now` finds in storage what one finds in the cache. -/
def Durable (now : T) (s : CachedStore I K V) : Prop :=
  ∀ id, A.age now (s.stored address fresh id) = A.seen address fresh s id now

variable {A address fresh} {s t : CachedStore I K V} {now next : T}

theorem seen_later (id : I) (le : now ≤ next) :
    A.seen address fresh s id next = A.age next (A.seen address fresh s id now) :=
  (A.age_age _ le).symm

@[simp] theorem age_seen (id : I) :
    A.age now (A.seen address fresh s id now) = A.seen address fresh s id now :=
  A.age_age _ le_rfl

theorem seen_of_agreeAt {id : I} (agree : AgreeAt address id s t) :
    A.seen address fresh s id now = A.seen address fresh t id now := by
  rw [seen, seen, agree.load]

theorem durable_evict : A.Durable address fresh now s.evict := fun _ => rfl

theorem Durable.later (durable : A.Durable address fresh now s) (le : now ≤ next) :
    A.Durable address fresh next s := by
  intro id
  rw [seen_later id le, ← durable id]
  exact (A.age_age _ le).symm

section Writes

variable [DecidableEq I]

/-- Caching a record as it is found shows to no reader at that instant. -/
theorem seen_setCache_seen (id other : I) :
    A.seen address fresh (s.setCache id (A.seen address fresh s id now)) other now =
      A.seen address fresh s other now := by
  by_cases same : other = id
  · subst same
    rw [seen, load_setCache_self, age_seen]
  · exact seen_of_agreeAt (agreeAt_setCache s _ same)

theorem Durable.setCache_seen (durable : A.Durable address fresh now s) (id : I) :
    A.Durable address fresh now (s.setCache id (A.seen address fresh s id now)) := by
  intro other
  rw [seen_setCache_seen, stored_setCache]
  exact durable other

variable [DecidableEq K] (inj : Function.Injective address)
include inj

theorem Durable.save (durable : A.Durable address fresh now s) (id : I) (v : V) :
    A.Durable address fresh now (s.save address id v) := by
  intro other
  by_cases same : other = id
  · subst same
    rw [seen, stored_save_self, load_save_self]
  · have agree := agreeAt_save inj s v same
    rw [seen, agree.stored, agree.load]
    exact durable other

theorem seen_save (id other : I) (v : V) :
    A.seen address fresh (s.save address id v) other now =
      if other = id then A.age now v else A.seen address fresh s other now := by
  by_cases same : other = id
  · subst same
    rw [if_pos rfl, seen, load_save_self]
  · rw [if_neg same]
    exact seen_of_agreeAt (agreeAt_save inj s v same)

end Writes

/-! ## Two stores -/

variable (A address fresh) in
/-- A store whose cache was dropped now and then beside one whose cache was kept. A reader
at `now`, and so at any later instant, finds the same in both. -/
structure Alike (now : T) (evicted kept : CachedStore I K V) : Prop where
  durable : A.Durable address fresh now evicted
  durable_kept : A.Durable address fresh now kept
  seen : ∀ id, A.seen address fresh evicted id now = A.seen address fresh kept id now

variable {evicted kept : CachedStore I K V}

theorem Alike.refl (durable : A.Durable address fresh now s) :
    A.Alike address fresh now s s := ⟨durable, durable, fun _ => rfl⟩

theorem Alike.later (alike : A.Alike address fresh now evicted kept) (le : now ≤ next) :
    A.Alike address fresh next evicted kept where
  durable := alike.durable.later le
  durable_kept := alike.durable_kept.later le
  seen id := by rw [seen_later id le, alike.seen id, ← seen_later id le]

theorem Alike.evict (alike : A.Alike address fresh now evicted kept) :
    A.Alike address fresh now evicted.evict kept where
  durable := durable_evict
  durable_kept := alike.durable_kept
  seen id := (alike.durable id).trans (alike.seen id)

/-- A call that keeps stores durable, and whose effect on what a reader finds depends on
nothing else, acts alike on both. -/
theorem Alike.serve (alike : A.Alike address fresh now evicted kept)
    (call : CachedStore I K V → CachedStore I K V) (effect : I → V → V)
    (durable : ∀ s, A.Durable address fresh now s → A.Durable address fresh now (call s))
    (found : ∀ s, A.Durable address fresh now s → ∀ id,
      A.seen address fresh (call s) id now = effect id (A.seen address fresh s id now)) :
    A.Alike address fresh now (call evicted) (call kept) where
  durable := durable _ alike.durable
  durable_kept := durable _ alike.durable_kept
  seen id := by rw [found _ alike.durable, found _ alike.durable_kept, alike.seen id]

end Aging

end CachedStore
