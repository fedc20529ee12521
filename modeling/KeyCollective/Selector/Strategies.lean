import KeyCollective.Selector.Triage

/-!
# Selection strategies

Each strategy picks one key of a non-empty list of healthy keys.
-/

namespace KeyCollective

inductive KeySelectionStrategy where
  | roundRobin
  | leastUsed
  | loadBalanced
  | priority
  | random
  | costOptimal
  | lowestLatency
  | cascade
deriving DecidableEq, Repr

/-- The round-robin pointer per normalised provider, in memory over storage. -/
abbrev RoundRobinIndices := CachedStore String String Nat

structure KeySelector where
  tenantId : Option String
  defaultStrategy : KeySelectionStrategy
  circuitBreaker : Option CircuitBreaker
  rateLimiter : Option RateLimiter
  /-- Whether storage for the round-robin pointers was supplied. -/
  storage : Bool
  storageKeyPrefix : String

/-- What a strategy reads besides the healthy keys. -/
structure StrategyContext where
  provider : String
  rateLimiter : Option RateLimiter
  getUsageCount : String → Nat
  now : Int

variable [Host]

def normalizeProvider (provider : String) : String := Host.toLowerCase (trim provider)

namespace KeySelector

variable (sel : KeySelector)

omit [Host] in
def roundRobinKey (norm : String) : String := sel.storageKeyPrefix ++ "rr:" ++ norm

def getOrLoadRoundRobinIndex (indices : RoundRobinIndices) (provider : String) :
    Nat × RoundRobinIndices :=
  let norm := normalizeProvider provider
  match indices.cache norm with
  | some index => (index, indices)
  | none =>
    if sel.storage then
      let index := indices.stored sel.roundRobinKey 0 norm
      (index, indices.setCache norm index)
    else (0, indices)

def persistRoundRobinIndex (indices : RoundRobinIndices) (provider : String) (newIndex : Nat) :
    RoundRobinIndices :=
  let norm := normalizeProvider provider
  if sel.storage then indices.save sel.roundRobinKey norm newIndex
  else indices.setCache norm newIndex

end KeySelector

variable {κ : Type} [SelectableKey κ] (sel : KeySelector) (ctx : StrategyContext)

def selectRoundRobin (healthyKeys : List κ) (nonempty : healthyKeys ≠ [])
    (indices : RoundRobinIndices) : κ × RoundRobinIndices :=
  let (currentIndex, indices) := sel.getOrLoadRoundRobinIndex indices ctx.provider
  let selected := healthyKeys.get
    ⟨currentIndex % healthyKeys.length, Nat.mod_lt _ (List.length_pos_of_ne_nil nonempty)⟩
  let nextIndex := (currentIndex + 1) % 1000000
  (selected, sel.persistRoundRobinIndex indices ctx.provider nextIndex)

/-- The load a key is compared by: its requests in the window, or its selections
when there is no limiter. -/
def keyLoad (key : κ) (s : RateLimiter.Store) : Nat × RateLimiter.Store :=
  match ctx.rateLimiter with
  | some r => r.getCurrentRpm s (some (SelectableKey.id key)) ctx.now
  | none => (ctx.getUsageCount (SelectableKey.id key), s)

/-- The scan for the least loaded key; `none` is the source's `Infinity`. -/
def leastUsedLoop : List κ → κ → Option Nat → RateLimiter.Store → κ × RateLimiter.Store
  | [], bestKey, _, s => (bestKey, s)
  | key :: rest, bestKey, minLoad, s =>
    let (load, s) := keyLoad ctx key s
    if minLoad.all (load < ·) then leastUsedLoop rest key (some load) s
    else if minLoad = some load ∧
        ctx.getUsageCount (SelectableKey.id key) < ctx.getUsageCount (SelectableKey.id bestKey) then
      leastUsedLoop rest key minLoad s
    else leastUsedLoop rest bestKey minLoad s

def selectLeastUsed (healthyKeys : List κ) (nonempty : healthyKeys ≠ [])
    (s : RateLimiter.Store) : κ × RateLimiter.Store :=
  leastUsedLoop ctx healthyKeys (healthyKeys.head nonempty) none s

omit [Host] in
def keyPriority (key : κ) : Int := (SelectableKey.priority key).getD 0

/-- The scan for the highest priority; `none` is the source's `-Infinity`. -/
def maxPriority : List κ → Option Int → Option Int
  | [], highest => highest
  | key :: rest, highest =>
    maxPriority rest (if highest.all (· < keyPriority key) then some (keyPriority key) else highest)

omit [Host] in
theorem maxPriority_attained (keys : List κ) (highest : Option Int) :
    (maxPriority keys highest = highest ∧ (keys = [] ∨ highest ≠ none)) ∨
      ∃ key ∈ keys, maxPriority keys highest = some (keyPriority key) := by
  induction keys generalizing highest with
  | nil => exact Or.inl ⟨rfl, Or.inl rfl⟩
  | cons key rest ih =>
    simp only [maxPriority]
    rcases ih (if highest.all (· < keyPriority key) then some (keyPriority key) else highest) with
      ⟨same, -⟩ | ⟨found, mem, eq⟩
    · rw [same]
      split
      · exact Or.inr ⟨key, List.mem_cons_self, rfl⟩
      · rename_i above
        refine Or.inl ⟨rfl, Or.inr fun none => ?_⟩
        simp [none] at above
    · exact Or.inr ⟨found, List.mem_cons_of_mem key mem, eq⟩

def topTier (healthyKeys : List κ) : List κ :=
  healthyKeys.filter fun key => some (keyPriority key) = maxPriority healthyKeys none

omit [Host] in
theorem topTier_ne_nil {healthyKeys : List κ} (nonempty : healthyKeys ≠ []) :
    topTier healthyKeys ≠ [] := by
  rcases maxPriority_attained healthyKeys none with ⟨-, empty | absurd⟩ | ⟨key, mem, eq⟩
  · exact fun _ => nonempty empty
  · exact fun _ => absurd rfl
  · exact List.ne_nil_of_mem (List.mem_filter.mpr ⟨mem, by simp [eq]⟩)

/-- Highest priority first; ties go round-robin. -/
def selectPriority (healthyKeys : List κ) (nonempty : healthyKeys ≠ [])
    (indices : RoundRobinIndices) : κ × RoundRobinIndices :=
  match topTier healthyKeys, topTier_ne_nil nonempty with
  | [only], _ => (only, indices)
  | tier, nonempty => selectRoundRobin sel ctx tier nonempty indices

/-! ## The pick is one of the healthy keys -/

omit [SelectableKey κ] in
theorem selectRoundRobin_mem (healthyKeys : List κ) (nonempty : healthyKeys ≠ [])
    (indices : RoundRobinIndices) :
    (selectRoundRobin sel ctx healthyKeys nonempty indices).1 ∈ healthyKeys :=
  List.get_mem healthyKeys _

omit [Host] in
theorem leastUsedLoop_mem (keys : List κ) (bestKey : κ) (minLoad : Option Nat)
    (s : RateLimiter.Store) :
    (leastUsedLoop ctx keys bestKey minLoad s).1 ∈ bestKey :: keys := by
  induction keys generalizing bestKey minLoad s with
  | nil => exact List.mem_singleton.mpr rfl
  | cons key rest ih =>
    simp only [leastUsedLoop]
    split
    · exact List.mem_cons_of_mem bestKey (ih ..)
    · split
      · exact List.mem_cons_of_mem bestKey (ih ..)
      · rcases List.mem_cons.mp (ih bestKey minLoad _) with same | later
        · exact List.mem_cons.mpr (Or.inl same)
        · exact List.mem_cons_of_mem bestKey (List.mem_cons_of_mem key later)

omit [Host] in
theorem selectLeastUsed_mem (healthyKeys : List κ) (nonempty : healthyKeys ≠ [])
    (s : RateLimiter.Store) :
    (selectLeastUsed ctx healthyKeys nonempty s).1 ∈ healthyKeys := by
  rcases List.mem_cons.mp (leastUsedLoop_mem ctx healthyKeys (healthyKeys.head nonempty) none s) with
    first | later
  · rw [selectLeastUsed, first]
    exact List.head_mem nonempty
  · exact later

omit [Host] in
/-- The scan keeps the greatest of what it has seen. -/
theorem le_maxPriority (keys : List κ) (highest : Option Int) :
    (∀ h, highest = some h → ∃ m, maxPriority keys highest = some m ∧ h ≤ m) ∧
      ∀ key ∈ keys, ∃ m, maxPriority keys highest = some m ∧ keyPriority key ≤ m := by
  induction keys generalizing highest with
  | nil => exact ⟨fun h seen => ⟨h, seen, le_refl h⟩, fun key mem => absurd mem List.not_mem_nil⟩
  | cons key rest ih =>
    obtain ⟨next, eq, above, kept⟩ : ∃ next,
        (if highest.all (· < keyPriority key) then some (keyPriority key) else highest) = some next ∧
          keyPriority key ≤ next ∧ ∀ h, highest = some h → h ≤ next := by
      cases highest with
      | none => exact ⟨keyPriority key, by simp, le_refl _, fun h seen => by cases seen⟩
      | some h =>
        by_cases less : h < keyPriority key
        · refine ⟨keyPriority key, by simp [less], le_refl _, ?_⟩
          rintro _ ⟨⟩
          exact less.le
        · refine ⟨h, by simp [less], not_lt.mp less, ?_⟩
          rintro _ ⟨⟩
          exact le_refl _
    obtain ⟨m, found, bound⟩ := (ih (some next)).1 next rfl
    simp only [maxPriority, eq]
    refine ⟨fun h seen => ⟨m, found, (kept h seen).trans bound⟩, fun other mem => ?_⟩
    rcases List.mem_cons.mp mem with rfl | mem
    · exact ⟨m, found, above.trans bound⟩
    · exact (ih (some next)).2 other mem

theorem selectPriority_topTier (healthyKeys : List κ) (nonempty : healthyKeys ≠ [])
    (indices : RoundRobinIndices) :
    (selectPriority sel ctx healthyKeys nonempty indices).1 ∈ topTier healthyKeys := by
  unfold selectPriority
  split
  · rename_i only _ tier _
    exact tier ▸ List.mem_singleton.mpr rfl
  · exact selectRoundRobin_mem ..

/-- No healthy key ranks above the one selected. -/
theorem selectPriority_highest (healthyKeys : List κ) (nonempty : healthyKeys ≠ [])
    (indices : RoundRobinIndices) :
    ∀ key ∈ healthyKeys,
      keyPriority key ≤ keyPriority (selectPriority sel ctx healthyKeys nonempty indices).1 := by
  intro key mem
  have top := (List.mem_filter.mp
    (selectPriority_topTier sel ctx healthyKeys nonempty indices)).2
  obtain ⟨m, found, bound⟩ := (le_maxPriority healthyKeys none).2 key mem
  simp only [found, decide_eq_true_eq, Option.some.injEq] at top
  omega

theorem selectPriority_mem (healthyKeys : List κ) (nonempty : healthyKeys ≠ [])
    (indices : RoundRobinIndices) :
    (selectPriority sel ctx healthyKeys nonempty indices).1 ∈ healthyKeys := by
  have sub : topTier healthyKeys ⊆ healthyKeys := List.filter_sublist.subset
  exact sub (selectPriority_topTier sel ctx healthyKeys nonempty indices)

omit [Host] in
theorem keyLoad_keeps {P : RateLimiter.Store → Prop}
    (kept : KeptByReads ctx.rateLimiter ctx.now P) (key : κ) (s : RateLimiter.Store)
    (before : P s) : P (keyLoad ctx key s).2 := by
  cases hr : ctx.rateLimiter with
  | none =>
    simp only [keyLoad, hr]
    exact before
  | some r =>
    simp only [keyLoad, hr]
    exact kept r hr _ _ before

omit [Host] in
theorem selectLeastUsed_keeps {P : RateLimiter.Store → Prop}
    (kept : KeptByReads ctx.rateLimiter ctx.now P) (healthyKeys : List κ)
    (nonempty : healthyKeys ≠ []) (s : RateLimiter.Store) (before : P s) :
    P (selectLeastUsed ctx healthyKeys nonempty s).2 := by
  have loop : ∀ (keys : List κ) bestKey minLoad s, P s →
      P (leastUsedLoop ctx keys bestKey minLoad s).2 := by
    intro keys
    induction keys with
    | nil => exact fun _ _ _ before => before
    | cons key rest ih =>
      intro bestKey minLoad s before
      have read := keyLoad_keeps ctx kept key s before
      simp only [leastUsedLoop]
      split
      · exact ih _ _ _ read
      · split
        · exact ih _ _ _ read
        · exact ih _ _ _ read
  exact loop healthyKeys _ none s before

end KeyCollective
