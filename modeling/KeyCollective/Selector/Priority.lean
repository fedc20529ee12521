import KeyCollective.Selector.LeastUsed

/-!
# Priority selection

The keys of the highest priority are a tier, and the tie-breaker picks among them as it would
among any keys.
-/

namespace KeyCollective

inductive TieBreaker where
  | roundRobin
  | leastUsed
deriving DecidableEq, Repr

section

variable [Host] {κ : Type} [SelectableKey κ] (sel : KeySelector) (ctx : StrategyContext)

/-- `selectPriority` with the tie-breaker it is given. -/
def selectPriorityBy (tieBreaker : TieBreaker) (healthyKeys : List κ)
    (nonempty : healthyKeys ≠ []) (indices : RoundRobinIndices) (s : RateLimiter.Store) :
    κ × RoundRobinIndices × RateLimiter.Store :=
  match topTier healthyKeys, topTier_ne_nil nonempty with
  | [only], _ => (only, indices, s)
  | tier, nonempty =>
    match tieBreaker with
    | .leastUsed =>
      let (selected, s) := selectLeastUsed ctx tier nonempty s
      (selected, indices, s)
    | .roundRobin =>
      let (selected, indices) := selectRoundRobin sel ctx tier nonempty indices
      (selected, indices, s)

/-- The keys of one priority, where a key without one has 0. -/
def tierOf (healthyKeys : List κ) (priority : Int) : List κ :=
  healthyKeys.filter fun key => (SelectableKey.priority key).getD 0 = priority

/-- What a tie-breaker picks of a list. -/
def TieBreaker.Picks (tieBreaker : TieBreaker) (indices : RoundRobinIndices)
    (s : RateLimiter.Store) (keys : List κ) (key : κ) : Prop :=
  match tieBreaker with
  | .roundRobin =>
    keys[(sel.getOrLoadRoundRobinIndex indices ctx.provider).1 % keys.length]? = some key
  | .leastUsed => Cheapest.IsFirst (usageOrder ctx (recentLoad ctx s)) keys key

variable {healthyKeys : List κ} (nonempty : healthyKeys ≠ []) (indices : RoundRobinIndices)
  (s : RateLimiter.Store)

/-- By default ties go round-robin. -/
theorem selectPriorityBy_roundRobin :
    selectPriorityBy sel ctx .roundRobin healthyKeys nonempty indices s =
      ((selectPriority sel ctx healthyKeys nonempty indices).1,
        (selectPriority sel ctx healthyKeys nonempty indices).2, s) := by
  unfold selectPriorityBy selectPriority
  generalize topTier_ne_nil nonempty = some_key
  revert some_key
  generalize topTier healthyKeys = tier
  intro some_key
  match tier, some_key with
  | [_], _ => rfl
  | _ :: _ :: _, _ => rfl

omit [Host] in
theorem topTier_eq (nonempty : healthyKeys ≠ []) : ∃ highest, topTier healthyKeys = tierOf healthyKeys highest ∧
    ∀ key ∈ healthyKeys, (SelectableKey.priority key).getD 0 ≤ highest := by
  obtain ⟨first, mem⟩ := List.exists_mem_of_ne_nil _ nonempty
  obtain ⟨highest, found, -⟩ := (le_maxPriority healthyKeys none).2 first mem
  refine ⟨highest, ?_, fun key mem => ?_⟩
  · simp only [topTier, tierOf, keyPriority, found, Option.some.injEq]
  · obtain ⟨other, found', le⟩ := (le_maxPriority healthyKeys none).2 key mem
    exact Option.some.inj (found.symm.trans found') ▸ le

theorem selectRoundRobin_picks (tier : List κ) (some_key : tier ≠ []) :
    TieBreaker.roundRobin.Picks sel ctx indices s tier
      (selectRoundRobin sel ctx tier some_key indices).1 := by
  have within : (sel.getOrLoadRoundRobinIndex indices ctx.provider).1 % tier.length <
      tier.length := Nat.mod_lt _ (List.length_pos_of_ne_nil some_key)
  exact List.getElem?_eq_getElem within

/-- A key that is alone is picked by either. -/
theorem picks_only (tieBreaker : TieBreaker) (only : κ) :
    tieBreaker.Picks sel ctx indices s [only] only := by
  cases tieBreaker with
  | roundRobin =>
    change [only][_ % 1]? = some only
    rw [Nat.mod_one]
    rfl
  | leastUsed => exact .singleton only

theorem selectPriorityBy_picks (tieBreaker : TieBreaker) :
    tieBreaker.Picks sel ctx indices s (topTier healthyKeys)
      (selectPriorityBy sel ctx tieBreaker healthyKeys nonempty indices s).1 := by
  unfold selectPriorityBy
  generalize topTier_ne_nil nonempty = some_key
  revert some_key
  generalize topTier healthyKeys = tier
  intro some_key
  match tier, some_key with
  | [only], _ => exact picks_only sel ctx indices s tieBreaker only
  | _ :: _ :: _, some_key =>
    cases tieBreaker with
    | roundRobin => exact selectRoundRobin_picks sel ctx indices s _ some_key
    | leastUsed => exact selectLeastUsed_first ctx s _ some_key

variable {sel ctx indices s} in
theorem TieBreaker.Picks.mem {tieBreaker : TieBreaker} {keys : List κ} {key : κ}
    (picked : tieBreaker.Picks sel ctx indices s keys key) : key ∈ keys := by
  cases tieBreaker with
  | roundRobin => exact List.mem_of_getElem? picked
  | leastUsed => exact Cheapest.IsFirst.mem picked

/-- What the strategies return is best, and is one of the keys. -/
structure Optimal (healthyKeys : List κ) (nonempty : healthyKeys ≠ [])
    (indices : RoundRobinIndices) (s : RateLimiter.Store) : Prop where
  leastUsed : Cheapest.IsFirst (usageOrder ctx (recentLoad ctx s)) healthyKeys
    (selectLeastUsed ctx healthyKeys nonempty s).1
  leastUsed_mem : (selectLeastUsed ctx healthyKeys nonempty s).1 ∈ healthyKeys
  priority : ∀ tieBreaker, ∃ highest,
    (∀ key ∈ healthyKeys, (SelectableKey.priority key).getD 0 ≤ highest) ∧
      tieBreaker.Picks sel ctx indices s (tierOf healthyKeys highest)
        (selectPriorityBy sel ctx tieBreaker healthyKeys nonempty indices s).1 ∧
      (SelectableKey.priority
        (selectPriorityBy sel ctx tieBreaker healthyKeys nonempty indices s).1).getD 0 = highest
  priority_mem : ∀ tieBreaker,
    (selectPriorityBy sel ctx tieBreaker healthyKeys nonempty indices s).1 ∈ healthyKeys

theorem strategies_optimal (healthyKeys : List κ) (nonempty : healthyKeys ≠ [])
    (indices : RoundRobinIndices) (s : RateLimiter.Store) :
    Optimal sel ctx healthyKeys nonempty indices s := by
  obtain ⟨highest, tier, bound⟩ := topTier_eq nonempty
  have picks (tieBreaker : TieBreaker) := selectPriorityBy_picks sel ctx nonempty indices s tieBreaker
  simp only [tier] at picks
  have kept (tieBreaker : TieBreaker) := List.mem_filter.mp (picks tieBreaker).mem
  exact
    { leastUsed := selectLeastUsed_first ctx s healthyKeys nonempty
      leastUsed_mem := selectLeastUsed_mem ctx healthyKeys nonempty s
      priority := fun tieBreaker =>
        ⟨highest, bound, picks tieBreaker, of_decide_eq_true (kept tieBreaker).2⟩
      priority_mem := fun tieBreaker => (kept tieBreaker).1 }

end

section Examples

attribute [local instance] asciiHost

def tieSelector : KeySelector where
  tenantId := none
  defaultStrategy := .priority
  circuitBreaker := none
  rateLimiter := some usedLimiter
  storage := false
  storageKeyPrefix := "selector:"

/-- Neither key has a priority, so both are of the tier, and the selector goes round-robin. -/
theorem strategies_optimal_used :
    Optimal tieSelector usedContext usedKeys (by decide) .empty usedStore ∧
      ∃ highest, TieBreaker.roundRobin.Picks tieSelector usedContext .empty usedStore
        (tierOf usedKeys highest)
        (selectPriority tieSelector usedContext usedKeys (by decide) .empty).1 := by
  have optimal := strategies_optimal tieSelector usedContext usedKeys (by decide) .empty usedStore
  refine ⟨optimal, ?_⟩
  obtain ⟨highest, -, picks, -⟩ := optimal.priority .roundRobin
  rw [selectPriorityBy_roundRobin] at picks
  exact ⟨highest, picks⟩

end Examples

end KeyCollective
