import Mathlib
import KeyCollective.Breaker.Runs
import KeyCollective.Lib.Aging

/-!
# Evicted breakers

Half-opening may be seen in memory only. The record in storage makes up for it: read at
the same instant, it half-opens too.
-/

namespace KeyCollective.CircuitBreaker

open CachedStore (Aging)

variable (b : CircuitBreaker)

/-- A record ages by its cooldown. -/
def cooling : Aging Int CircuitBreakerData where
  age now data := data.evaluateCooldown now b.cooldownMs
  age_age data le := data.evaluateCooldown_later b.cooldownMs le

theorem seen_eq (s : Store) (id : String) (now : Int) :
    b.cooling.seen b.getStorageKey createDefaultCircuitBreakerData s id now = b.view s id now := rfl

/-- A reader at `now` finds in storage what one finds in memory. -/
def Durable (now : Int) (s : Store) : Prop :=
  b.cooling.Durable b.getStorageKey createDefaultCircuitBreakerData now s

theorem view_later (s : Store) (id : String) {now later : Int} (le : now ≤ later) :
    b.view s id later = (b.view s id now).evaluateCooldown later b.cooldownMs :=
  Aging.seen_later (A := b.cooling) id le

/-- A synchronous read caches what a reader at that instant finds. -/
theorem getDataSync_cases (s : Store) (keyId : Option String) (now : Int) :
    (b.getDataSync s keyId now).2 = s ∨
      (b.getDataSync s keyId now).2 =
        s.setCache (b.resolveKeyId keyId) (b.view s (b.resolveKeyId keyId) now) := by
  simp only [getDataSync]
  cases cached : s.cache (b.resolveKeyId keyId) with
  | none => exact Or.inl rfl
  | some data =>
    have loaded : b.load s (b.resolveKeyId keyId) = data := by
      rw [load, CachedStore.load, cached, Option.getD_some]
    rw [view, loaded]
    exact Or.inr rfl

/-- A synchronous read changes nothing that a reader at that instant sees. -/
theorem view_getDataSync (s : Store) (keyId : Option String) (id : String) (now : Int) :
    b.view (b.getDataSync s keyId now).2 id now = b.view s id now := by
  rcases b.getDataSync_cases s keyId now with same | cached
  · rw [same]
  · rw [cached]
    exact Aging.seen_setCache_seen (A := b.cooling) (b.resolveKeyId keyId) id

variable {b}

theorem Durable.later {s : Store} {now later : Int} (durable : b.Durable now s)
    (le : now ≤ later) : b.Durable later s :=
  Aging.Durable.later durable le

theorem durable_over (disk : String → Option CircuitBreakerData) (now : Int) :
    b.Durable now ⟨fun _ => none, disk⟩ :=
  Aging.durable_evict (s := ⟨fun _ => none, disk⟩)

theorem Durable.getData {s : Store} {now : Int} (durable : b.Durable now s)
    (keyId : Option String) : b.Durable now (b.getData s keyId now).2 := by
  simp only [CircuitBreaker.getData]
  split
  · exact Aging.Durable.save b.getStorageKey_injective durable _ _
  · exact Aging.Durable.setCache_seen durable _

theorem Durable.getDataSync {s : Store} {now : Int} (durable : b.Durable now s)
    (keyId : Option String) : b.Durable now (b.getDataSync s keyId now).2 := by
  rcases b.getDataSync_cases s keyId now with same | cached
  · rw [same]
    exact durable
  · rw [cached]
    exact Aging.Durable.setCache_seen durable _

theorem Durable.serve {s : Store} {now : Int} (durable : b.Durable now s) (call : Call) :
    b.Durable now (b.serve s now call) := by
  have served := b.serve_served s now call
  generalize b.serve s now call = after at served ⊢
  cases served with
  | updated keyId =>
    exact Aging.Durable.save b.getStorageKey_injective (durable.getData _) _ _
  | unchanged => exact durable
  | read keyId => exact durable.getData keyId
  | readSync keyId => exact durable.getDataSync keyId
  | evicted => exact Aging.durable_evict

/-- What a reader sees after a call: for the key the call is on, the call's effect on what
one saw before. -/
theorem Durable.view_serve {s : Store} {now : Int} (durable : b.Durable now s) (call : Call)
    (id : String) :
    b.view (b.serve s now call) id now =
      if call.target b = some id then
        ((call.effect b).apply b now (b.view s id now)).evaluateCooldown now b.cooldownMs
      else b.view s id now := by
  have idle : ∀ {after : Store}, call.effect b = .none → b.view after id now = b.view s id now →
      b.view after id now =
        if call.target b = some id then
          ((call.effect b).apply b now (b.view s id now)).evaluateCooldown now b.cooldownMs
        else b.view s id now := by
    intro after idle same
    rw [same, idle]
    split
    · exact (CircuitBreakerData.evaluateCooldown_idem _ _ _).symm
    · rfl
  have served := b.serve_served s now call
  generalize b.serve s now call = after at served ⊢
  cases served with
  | updated keyId target =>
    rw [target, view, load_update]
    by_cases same : id = b.resolveKeyId keyId
    · subst same
      simp only [↓reduceIte]
    · have other : ¬ some (b.resolveKeyId keyId) = some id := fun eq =>
        same (Option.some.inj eq).symm
      simp only [same, other, ↓reduceIte]
      rfl
  | unchanged still => exact idle still rfl
  | read keyId _ still => exact idle still (b.view_getData s keyId id now)
  | readSync keyId _ still => exact idle still (b.view_getDataSync s keyId id now)
  | evicted _ still => exact idle still (durable id)

/-! ## Two runs -/

/-- An instance constructed over what storage holds. -/
def Run.over (disk : String → Option CircuitBreakerData) (clock : Int) : Run :=
  ⟨⟨fun _ => none, disk⟩, clock⟩

/-- At the clock of the first run, a reader sees the same in both. -/
def Alike (b : CircuitBreaker) (evicted kept : Run) : Prop :=
  b.cooling.Alike b.getStorageKey createDefaultCircuitBreakerData evicted.clock evicted.store
    kept.store

theorem Alike.evict {evicted kept : Run} (alike : Alike b evicted kept) {now : Int}
    (le : evicted.clock ≤ now) : Alike b (b.step evicted (.clearMemoryCache, now)) kept :=
  (Aging.Alike.later alike le).evict

theorem Alike.step {evicted kept : Run} (alike : Alike b evicted kept) {call : Call × Int}
    (le : evicted.clock ≤ call.2) : Alike b (b.step evicted call) (b.step kept call) := by
  have later := Aging.Alike.later alike le
  refine later.serve (b.serve · call.2 call.1) (fun id data =>
    if call.1.target b = some id then
      ((call.1.effect b).apply b call.2 data).evaluateCooldown call.2 b.cooldownMs
    else data) ?_ ?_
  · intro s durable
    exact Durable.serve durable call.1
  · intro s durable id
    exact Durable.view_serve durable call.1 id

/-- Evictions at any points of a run, synchronous reads in it or not, change nothing that an
asynchronous read after it answers. -/
theorem eviction_transparent (disk : String → Option CircuitBreakerData) (clock : Int)
    (calls : List (Call × Int))
    (ordered : Transition.Guarded b.step Ordered (.over disk clock) calls) :
    let evicted := calls.foldl b.step (.over disk clock)
    let kept := (calls.filter (·.1 ≠ .clearMemoryCache)).foldl b.step (.over disk clock)
    ∀ keyId now, evicted.clock ≤ now →
      (b.canExecute evicted.store keyId now).1 = (b.canExecute kept.store keyId now).1 ∧
      (b.getState evicted.store keyId now).1 = (b.getState kept.store keyId now).1 ∧
      (b.getData evicted.store keyId now).1 = (b.getData kept.store keyId now).1 ∧
      (b.getCircuitOpenUntil evicted.store keyId now).1 =
        (b.getCircuitOpenUntil kept.store keyId now).1 ∧
      (b.getRetryAfterSeconds evicted.store keyId now).1 =
        (b.getRetryAfterSeconds kept.store keyId now).1 := by
  intro evicted kept keyId now le
  have fresh : b.Durable clock (Run.over disk clock).store := durable_over disk clock
  have alike : Alike b evicted
      ((calls.filter fun call => !decide (call.1 = .clearMemoryCache)).foldl b.step
        (.over disk clock)) := by
    refine Transition.foldl_filter_related (R := Alike b) _ ?_ ?_ (.refl fresh) ordered
    · rintro run other ⟨call, now⟩ cleared alike le
      obtain rfl := of_decide_eq_true cleared
      exact alike.evict le
    · intro run other call _ alike le
      exact alike.step le
  have same : b.view evicted.store (b.resolveKeyId keyId) now =
      b.view kept.store (b.resolveKeyId keyId) now := by
    have seen := (Aging.Alike.later alike le).seen (b.resolveKeyId keyId)
    simpa [kept, seen_eq] using seen
  simp only [canExecute, getState, getCircuitOpenUntil, getRetryAfterSeconds, getData_fst, same,
    and_self]

/-- The default breaker: a trip, a synchronous read after the cooldown, an eviction. -/
theorem eviction_transparent_default :
    ((create {}).canExecute
      ([(.trip none, 0), (.readSync none, 70000), (.clearMemoryCache, 70001)].foldl
        (create {}).step (.over (fun _ => none) 0)).store none 70002).1 =
    ((create {}).canExecute
      ([(.trip none, 0), (.readSync none, 70000)].foldl
        (create {}).step (.over (fun _ => none) 0)).store none 70002).1 :=
  (eviction_transparent (fun _ => none) 0
    [(.trip none, 0), (.readSync none, 70000), (.clearMemoryCache, 70001)]
    ⟨by simp [Ordered, Run.over], by simp [Ordered, step], by simp [Ordered, step], trivial⟩
    none 70002 (by decide)).1

end KeyCollective.CircuitBreaker
