import Mathlib
import KeyCollective.Lib.Aging
import KeyCollective.Lib.Transition
import KeyCollective.Limiter.RateLimiter

/-!
# Evicted limiters

Every increment and every reset is written through. A read prunes the cached counters
only; those in storage are pruned to the same when they are next read.
-/

namespace KeyCollective.RateLimiter

open CachedStore (Aging)

/-- An asynchronous call on a key, or an eviction. Every check reads as `getData` does. -/
inductive Call where
  | check (keyId : Option String)
  | increment (keyId : Option String) (costMicrodollars : Int)
  | reset (keyId : Option String)
  | clearMemoryCache
deriving DecidableEq, Repr

variable (r : RateLimiter)

def serve (s : Store) (now : Int) : Call → Store
  | .check keyId => (r.getData s keyId now).2
  | .increment keyId costMicrodollars => r.increment s keyId costMicrodollars now
  | .reset keyId => r.reset s keyId
  | .clearMemoryCache => clearMemoryCache s

/-- A store and the instant of the last call. -/
abbrev Timed := Store × Int

def callStep (run : Timed) (call : Call × Int) : Timed :=
  (r.serve run.1 call.2 call.1, call.2)

/-- The clock does not run backwards. -/
def OrderedCall (run : Timed) (call : Call × Int) : Prop := run.2 ≤ call.2

/-- Counters age out of the day window. -/
def sliding : Aging Int RateLimiterData where
  age now data := r.prune data now
  age_age data le := r.prune_later data le

theorem seen_eq (s : Store) (id : String) (now : Int) :
    r.sliding.seen r.getStorageKey createDefaultRateLimiterData s id now = r.view s id now := rfl

def Durable (now : Int) (s : Store) : Prop :=
  r.sliding.Durable r.getStorageKey createDefaultRateLimiterData now s

/-- What a call makes of the counters found under `id`. -/
def Call.effect (now : Int) (id : String) (data : RateLimiterData) : Call → RateLimiterData
  | .increment keyId costMicrodollars =>
    if id = r.resolveKeyId keyId then
      r.prune (r.prune
        { entries := countRequest data.entries now costMicrodollars
          totalCostMicrodollars := data.totalCostMicrodollars + costMicrodollars
          lastRequestTime := some now } now) now
    else data
  | .reset keyId =>
    if id = r.resolveKeyId keyId then r.prune createDefaultRateLimiterData now else data
  | .check _ | .clearMemoryCache => data

theorem view_save (s : Store) (id other : String) (data : RateLimiterData) (now : Int) :
    r.view (s.save r.getStorageKey id data) other now =
      if other = id then r.prune data now else r.view s other now :=
  Aging.seen_save (A := r.sliding) r.getStorageKey_injective id other data

variable {r}

theorem Durable.serve {s : Store} {now : Int} (durable : r.Durable now s) (call : Call) :
    r.Durable now (r.serve s now call) := by
  cases call with
  | check keyId => exact Aging.Durable.setCache_seen durable _
  | increment keyId costMicrodollars =>
    have read : r.Durable now (r.getData s (some (r.resolveKeyId keyId)) now).2 :=
      Aging.Durable.setCache_seen durable _
    exact Aging.Durable.save r.getStorageKey_injective read _ _
  | reset keyId => exact Aging.Durable.save r.getStorageKey_injective durable _ _
  | clearMemoryCache => exact Aging.durable_evict

theorem Durable.view_serve {s : Store} {now : Int} (durable : r.Durable now s) (call : Call)
    (id : String) : r.view (r.serve s now call) id now = call.effect r now id (r.view s id now) := by
  cases call with
  | check keyId => exact r.view_getData s keyId id now
  | increment keyId costMicrodollars =>
    simp only [RateLimiter.serve, increment, view_save, view_getData, Call.effect]
    by_cases same : id = r.resolveKeyId keyId
    · subst same
      rfl
    · simp only [same, ↓reduceIte]
  | reset keyId => exact r.view_save s (r.resolveKeyId keyId) id _ now
  | clearMemoryCache => exact durable id

/-- At the clock of the first run, a reader finds the same in both stores. -/
def Alike (r : RateLimiter) (evicted kept : Timed) : Prop :=
  r.sliding.Alike r.getStorageKey createDefaultRateLimiterData evicted.2 evicted.1 kept.1

theorem Alike.evict {evicted kept : Timed} (alike : Alike r evicted kept) {now : Int}
    (le : evicted.2 ≤ now) : Alike r (r.callStep evicted (.clearMemoryCache, now)) kept :=
  (Aging.Alike.later alike le).evict

theorem Alike.step {evicted kept : Timed} (alike : Alike r evicted kept) {call : Call × Int}
    (le : evicted.2 ≤ call.2) : Alike r (r.callStep evicted call) (r.callStep kept call) := by
  have later := Aging.Alike.later alike le
  refine later.serve (r.serve · call.2 call.1)
    (fun id data => call.1.effect r call.2 id data) ?_ ?_
  · intro s durable
    exact Durable.serve durable call.1
  · intro s durable id
    exact Durable.view_serve durable call.1 id

/-- Evictions at any points of a run change nothing that a check after it answers. -/
theorem check_after_evictions (disk : String → Option RateLimiterData) (clock : Int)
    (calls : List (Call × Int))
    (ordered : Transition.Guarded r.callStep OrderedCall (⟨fun _ => none, disk⟩, clock) calls)
    {keyId : Option String} {now : Int}
    (le : (calls.foldl r.callStep (⟨fun _ => none, disk⟩, clock)).2 ≤ now) (cost : Int) :
    (r.checkLimitDetailed (calls.foldl r.callStep (⟨fun _ => none, disk⟩, clock)).1
        keyId cost now).1 =
      (r.checkLimitDetailed ((calls.filter (·.1 ≠ .clearMemoryCache)).foldl r.callStep
        (⟨fun _ => none, disk⟩, clock)).1 keyId cost now).1 := by
  have fresh : Alike r (⟨fun _ => none, disk⟩, clock) (⟨fun _ => none, disk⟩, clock) :=
    .refl (Aging.durable_evict (s := ⟨fun _ => none, disk⟩))
  have alike : Alike r (calls.foldl r.callStep (⟨fun _ => none, disk⟩, clock))
      ((calls.filter fun call => !decide (call.1 = .clearMemoryCache)).foldl r.callStep
        (⟨fun _ => none, disk⟩, clock)) := by
    refine Transition.foldl_filter_related (R := Alike r) _ ?_ ?_ fresh ordered
    · rintro run other ⟨call, now⟩ cleared alike le
      obtain rfl := of_decide_eq_true cleared
      exact alike.evict le
    · intro run other call _ alike le
      exact alike.step le
  have same := (Aging.Alike.later alike le).seen (r.resolveKeyId keyId)
  simp only [seen_eq] at same
  simp only [checkLimitDetailed, getData_fst, same, ne_eq, decide_not]

end KeyCollective.RateLimiter
