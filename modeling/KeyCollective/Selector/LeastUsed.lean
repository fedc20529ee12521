import KeyCollective.Lib.Cheapest
import KeyCollective.Selector.Sync
import Mathlib.Data.Prod.Lex

/-!
# Least-used selection

Both variants keep the first key of the least load, and of those with that load the first of
the fewest selections. The asynchronous one takes the requests of the last minute for the load,
the synchronous one all requests that are still kept, which are those of a day.
-/

namespace KeyCollective

variable {κ : Type} [SelectableKey κ] (ctx : StrategyContext) (s : RateLimiter.Store)

/-- The requests of the last window, or the selections when there is no limiter. -/
def recentLoad (key : κ) : Nat :=
  match ctx.rateLimiter with
  | some r => calculateRpm (r.view s (SelectableKey.id key) ctx.now) ctx.now r.windowSizeMs
  | none => ctx.getUsageCount (SelectableKey.id key)

/-- The requests that are kept, or the selections when there is no limiter. -/
def keptLoad (key : κ) : Nat :=
  match ctx.rateLimiter with
  | some r => ((r.view s (SelectableKey.id key) ctx.now).entries.map (·.count)).sum
  | none => ctx.getUsageCount (SelectableKey.id key)

/-- Ties of a load are broken by the selections. -/
def usageOrder (load : κ → Nat) (key : κ) : Nat ×ₗ Nat :=
  toLex (load key, ctx.getUsageCount (SelectableKey.id key))

/-- The counters of the keys are in memory. -/
def LimiterLoaded (keys : List κ) (s : RateLimiter.Store) : Prop :=
  ∀ r, ctx.rateLimiter = some r → ∀ key ∈ keys, (s.cache (SelectableKey.id key)).isSome

/-! ## The scan -/

/-- The loop of both variants, over a way of reading a load. -/
def scanLoads (read : κ → RateLimiter.Store → Nat × RateLimiter.Store) :
    List κ → κ → Option Nat → RateLimiter.Store → κ × RateLimiter.Store
  | [], bestKey, _, s => (bestKey, s)
  | key :: rest, bestKey, minLoad, s =>
    let (load, s) := read key s
    if minLoad.all (load < ·) then scanLoads read rest key (some load) s
    else if minLoad = some load ∧
        ctx.getUsageCount (SelectableKey.id key) < ctx.getUsageCount (SelectableKey.id bestKey) then
      scanLoads read rest key minLoad s
    else scanLoads read rest bestKey minLoad s

theorem leastUsedLoop_eq (keys : List κ) (bestKey : κ) (minLoad : Option Nat)
    (s : RateLimiter.Store) :
    leastUsedLoop ctx keys bestKey minLoad s =
      scanLoads ctx (keyLoad ctx) keys bestKey minLoad s := by
  induction keys generalizing bestKey minLoad s with
  | nil => rfl
  | cons key rest ih => simp only [leastUsedLoop, scanLoads, ih]

theorem leastUsedLoopSync_eq (keys : List κ) (bestKey : κ) (minLoad : Option Nat)
    (s : RateLimiter.Store) :
    leastUsedLoopSync ctx keys bestKey minLoad s =
      scanLoads ctx (keyLoadSync ctx) keys bestKey minLoad s := by
  induction keys generalizing bestKey minLoad s with
  | nil => rfl
  | cons key rest ih => simp only [leastUsedLoopSync, scanLoads, ih]

/-- Whatever is read, each key is found to have its load. -/
def Reads (read : κ → RateLimiter.Store → Nat × RateLimiter.Store) (load : κ → Nat)
    (keys : List κ) (P : RateLimiter.Store → Prop) : Prop :=
  ∀ key ∈ keys, ∀ s, P s → (read key s).1 = load key ∧ P (read key s).2

variable {ctx s} {read : κ → RateLimiter.Store → Nat × RateLimiter.Store} {load : κ → Nat}
  {P : RateLimiter.Store → Prop}

theorem usageOrder_lt {key best : κ} :
    usageOrder ctx load key < usageOrder ctx load best ↔
      load key < load best ∨ load best = load key ∧
        ctx.getUsageCount (SelectableKey.id key) < ctx.getUsageCount (SelectableKey.id best) := by
  rw [usageOrder, usageOrder, Prod.Lex.toLex_lt_toLex, eq_comm (a := load key)]

/-- What has been seen grows by a key at a time, and its first least key is kept. -/
theorem scanLoads_first {seen keys : List κ} {bestKey : κ}
    (first : Cheapest.IsFirst (usageOrder ctx load) seen bestKey)
    (reads : Reads read load keys P) (holds : P s) :
    Cheapest.IsFirst (usageOrder ctx load) (seen ++ keys)
      (scanLoads ctx read keys bestKey (some (load bestKey)) s).1 := by
  induction keys generalizing seen bestKey s with
  | nil =>
    rw [List.append_nil]
    exact first
  | cons key rest ih =>
    obtain ⟨found, after⟩ := reads key List.mem_cons_self s holds
    have later : Reads read load rest P := fun other mem =>
      reads other (List.mem_cons_of_mem key mem)
    have next := first.snoc key
    rw [show seen ++ key :: rest = seen ++ [key] ++ rest by simp]
    simp only [scanLoads, found, Option.all_some, Option.some.injEq, decide_eq_true_eq]
    by_cases lighter : load key < load bestKey
    · rw [if_pos (usageOrder_lt.mpr (.inl lighter))] at next
      rw [if_pos lighter]
      exact ih next later after
    · rw [if_neg lighter]
      by_cases tie : load bestKey = load key ∧
          ctx.getUsageCount (SelectableKey.id key) < ctx.getUsageCount (SelectableKey.id bestKey)
      · rw [if_pos (usageOrder_lt.mpr (.inr tie))] at next
        rw [if_pos tie, tie.1]
        exact ih next later after
      · rw [if_neg fun less => (usageOrder_lt.mp less).elim lighter tie] at next
        rw [if_neg tie]
        exact ih next later after

/-- `none` is the source's `Infinity`: the first key is kept, whatever its load. -/
theorem scanLoads_start {keys : List κ} (nonempty : keys ≠ []) (reads : Reads read load keys P)
    (holds : P s) :
    Cheapest.IsFirst (usageOrder ctx load) keys
      (scanLoads ctx read keys (keys.head nonempty) none s).1 := by
  cases keys with
  | nil => exact absurd rfl nonempty
  | cons key rest =>
    obtain ⟨found, after⟩ := reads key List.mem_cons_self s holds
    simp only [scanLoads, List.head_cons, Option.all_none, if_true, found]
    exact scanLoads_first (.singleton key)
      (fun other mem => reads other (List.mem_cons_of_mem key mem)) after

/-! ## What the variants read -/

/-- On loaded counters the synchronous read is the asynchronous one. -/
theorem RateLimiter.getDataSync_loaded (r : RateLimiter) {s : Store} {id : String}
    (loaded : (s.cache id).isSome) (now : Int) :
    r.getDataSync s (some id) now = (some (r.view s id now), (r.getData s (some id) now).2) := by
  obtain ⟨cached, eq⟩ := Option.isSome_iff_exists.mp loaded
  simp only [getDataSync, getData, resolveKeyId_some, view, load, CachedStore.load, eq,
    Option.getD_some]

theorem keyLoad_reads (keys : List κ) :
    Reads (keyLoad ctx) (recentLoad ctx s) keys fun later =>
      ∀ r, ctx.rateLimiter = some r → ∀ id, r.view later id ctx.now = r.view s id ctx.now := by
  intro key _ later same
  cases limited : ctx.rateLimiter with
  | none => simp only [keyLoad, recentLoad, limited, reduceCtorEq, false_implies, implies_true,
      and_self]
  | some r =>
    have views := same r limited
    simp only [keyLoad, recentLoad, limited, RateLimiter.getCurrentRpm, RateLimiter.getData_fst,
      RateLimiter.resolveKeyId_some, views]
    refine ⟨trivial, ?_⟩
    rintro r' ⟨⟩ id
    rw [RateLimiter.view_getData, views]

theorem keyLoadSync_reads (keys : List κ) :
    Reads (keyLoadSync ctx) (keptLoad ctx s) keys fun later =>
      LimiterLoaded ctx keys later ∧
        ∀ r, ctx.rateLimiter = some r → ∀ id, r.view later id ctx.now = r.view s id ctx.now := by
  rintro key mem later ⟨loaded, same⟩
  cases limited : ctx.rateLimiter with
  | none =>
    simp only [keyLoadSync, keptLoad, limited, LimiterLoaded, reduceCtorEq, false_implies,
      implies_true, and_self]
  | some r =>
    have views := same r limited
    have read := r.getDataSync_loaded (loaded r limited key mem) ctx.now
    simp only [keyLoadSync, keptLoad, limited, read, views]
    refine ⟨trivial, ?_, ?_⟩
    · intro r' limited' other other_mem
      obtain rfl : r = r' := Option.some.inj (limited.symm.trans limited')
      exact CachedStore.isSome_setCache (loaded r limited other other_mem) _ _
    · rintro r' ⟨⟩ id
      rw [RateLimiter.view_getData, views]

/-! ## The two variants -/

variable (ctx s)

theorem selectLeastUsed_first (keys : List κ) (nonempty : keys ≠ []) :
    Cheapest.IsFirst (usageOrder ctx (recentLoad ctx s)) keys
      (selectLeastUsed ctx keys nonempty s).1 := by
  rw [selectLeastUsed, leastUsedLoop_eq]
  exact scanLoads_start nonempty (keyLoad_reads keys) fun _ _ _ => rfl

theorem selectLeastUsedSync_first (keys : List κ) (nonempty : keys ≠ [])
    (loaded : LimiterLoaded ctx keys s) :
    Cheapest.IsFirst (usageOrder ctx (keptLoad ctx s)) keys
      (selectLeastUsedSync ctx keys nonempty s).1 := by
  rw [selectLeastUsedSync, leastUsedLoopSync_eq]
  exact scanLoads_start nonempty (keyLoadSync_reads keys) ⟨loaded, fun _ _ _ => rfl⟩

/-- The requests of the window and those of the day have one key ahead of the others: each key
before it in the list has more of both, and none behind it has less of either. Equal numbers of
requests are told apart by the selections. -/
def AheadInBoth (keys : List κ) : Prop :=
  ∃ before key after, keys = before ++ key :: after ∧
    (∀ other ∈ before,
      usageOrder ctx (recentLoad ctx s) key < usageOrder ctx (recentLoad ctx s) other ∧
        usageOrder ctx (keptLoad ctx s) key < usageOrder ctx (keptLoad ctx s) other) ∧
    ∀ other ∈ after,
      usageOrder ctx (recentLoad ctx s) key ≤ usageOrder ctx (recentLoad ctx s) other ∧
        usageOrder ctx (keptLoad ctx s) key ≤ usageOrder ctx (keptLoad ctx s) other

/-- A key that is first in two orders stands at one place of the list. -/
theorem aheadInBoth_iff (keys : List κ) :
    AheadInBoth ctx s keys ↔
      ∃ key, Cheapest.IsFirst (usageOrder ctx (recentLoad ctx s)) keys key ∧
        Cheapest.IsFirst (usageOrder ctx (keptLoad ctx s)) keys key := by
  constructor
  · rintro ⟨before, key, after, rfl, ahead, behind⟩
    exact ⟨key,
      ⟨before, after, rfl, fun other mem => (ahead other mem).1, fun other mem =>
        (behind other mem).1⟩,
      ⟨before, after, rfl, fun other mem => (ahead other mem).2, fun other mem =>
        (behind other mem).2⟩⟩
  · rintro ⟨key, ⟨before, after, rfl, ahead, behind⟩, before', after', split, ahead', behind'⟩
    have absent : key ∉ before := fun mem => lt_irrefl _ (ahead key mem)
    have absent' : key ∉ before' := fun mem => lt_irrefl _ (ahead' key mem)
    have same : before = before' ∧ after = after' := by
      rcases List.append_eq_append_iff.mp split with ⟨more, rfl, rest⟩ | ⟨more, rfl, rest⟩
      · rcases List.cons_eq_append_iff.mp rest with ⟨rfl, tail⟩ | ⟨more, rfl, -⟩
        · exact ⟨by simp, (List.cons.inj tail).2.symm⟩
        · exact absurd (by simp) absent'
      · rcases List.cons_eq_append_iff.mp rest with ⟨rfl, tail⟩ | ⟨more, rfl, -⟩
        · exact ⟨by simp, (List.cons.inj tail).2⟩
        · exact absurd (by simp) absent
    obtain ⟨rfl, rfl⟩ := same
    exact ⟨before, key, after, rfl, fun other mem => ⟨ahead other mem, ahead' other mem⟩,
      fun other mem => ⟨behind other mem, behind' other mem⟩⟩

/-- The variants select the same key exactly when one key is ahead both by the requests of the
window and by those of the day. -/
theorem least_used_agrees_iff (keys : List κ) (nonempty : keys ≠ [])
    (loaded : LimiterLoaded ctx keys s) :
    (selectLeastUsedSync ctx keys nonempty s).1 = (selectLeastUsed ctx keys nonempty s).1 ↔
      AheadInBoth ctx s keys := by
  have recent := selectLeastUsed_first ctx s keys nonempty
  have kept := selectLeastUsedSync_first ctx s keys nonempty loaded
  rw [aheadInBoth_iff]
  constructor
  · intro same
    rw [same] at kept
    exact ⟨_, recent, kept⟩
  · rintro ⟨key, first, first'⟩
    rw [kept.unique first', recent.unique first]

/-- Without a limiter both count selections. -/
theorem least_used_unlimited (keys : List κ) (nonempty : keys ≠ [])
    (unlimited : ctx.rateLimiter = none) :
    (selectLeastUsedSync ctx keys nonempty s).1 = (selectLeastUsed ctx keys nonempty s).1 := by
  have loads : keptLoad ctx s = recentLoad (κ := κ) ctx s := by
    funext key
    simp only [keptLoad, recentLoad, unlimited]
  have kept := selectLeastUsedSync_first ctx s keys nonempty fun r limited => by
    rw [unlimited] at limited
    cases limited
  rw [loads] at kept
  exact kept.unique (selectLeastUsed_first ctx s keys nonempty)

section Examples

/-- Two keys, one used twice in the morning and one just now. -/
def usedKeys : List EncryptedKey :=
  [{ id := "a", tenantId := none, provider := "groq", ciphertext := "c", nonce := "n" },
    { id := "b", tenantId := none, provider := "groq", ciphertext := "c", nonce := "n" }]

def usedLimiter : RateLimiter := .create {}

def usedContext : StrategyContext where
  provider := "groq"
  rateLimiter := some usedLimiter
  getUsageCount := fun _ => 0
  now := 3600000

def usedStore : RateLimiter.Store :=
  usedLimiter.increment
    (usedLimiter.increment (usedLimiter.increment .empty (some "a") 0 0) (some "a") 0 0)
    (some "b") 0 3600000

theorem usedStore_loaded : LimiterLoaded usedContext usedKeys usedStore := by
  rintro r ⟨⟩
  decide

/-- With two more uses of the second key it is behind in the minute and in the day. -/
def busyStore : RateLimiter.Store :=
  usedLimiter.increment (usedLimiter.increment usedStore (some "b") 0 3600000) (some "b") 0 3600000

theorem least_used_agrees_busy :
    (selectLeastUsedSync usedContext usedKeys (by decide) busyStore).1 =
      (selectLeastUsed usedContext usedKeys (by decide) busyStore).1 := by
  have loaded : LimiterLoaded usedContext usedKeys busyStore := by
    rintro r ⟨⟩
    decide
  refine (least_used_agrees_iff usedContext busyStore usedKeys (by decide) loaded).mpr ?_
  refine ⟨[], usedKeys.head (by decide), usedKeys.tail, rfl, ?_, ?_⟩
  · intro _ mem
    cases mem
  · decide

/-- The synchronous variant counts the requests of the morning. -/
theorem least_used_disagrees :
    LimiterLoaded usedContext usedKeys usedStore ∧
      ((selectLeastUsedSync usedContext usedKeys (by decide) usedStore).1.id = "b" ∧
        (selectLeastUsed usedContext usedKeys (by decide) usedStore).1.id = "a") :=
  ⟨usedStore_loaded, by decide⟩

end Examples

end KeyCollective
