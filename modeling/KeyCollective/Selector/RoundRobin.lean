import KeyCollective.Lib.Transition
import KeyCollective.Lib.Wraparound
import KeyCollective.Pool.EncryptedKey
import KeyCollective.Selector.KeySelector

/-!
# Round-robin turns

Every provider has one pointer, kept below a million and in storage when the selector has
one. A run of round-robin selections among keys that stay healthy reads it, and nothing else.
-/

namespace KeyCollective

/-- The strategies that go round the healthy keys. -/
def KeySelectionStrategy.takesTurns : KeySelectionStrategy → Bool
  | .roundRobin | .costOptimal | .lowestLatency | .cascade => true
  | .leastUsed | .loadBalanced | .priority | .random => false

namespace KeySelector

/-- A call on a selector. `setHealth` is whatever its pool does to the breakers and the
counters the two share. -/
inductive Op (κ : Type) where
  | addKey (key : κ)
  | removeKey (id : String)
  | setKeys (keys : List κ)
  | clearKeys
  | recordUsage (id : String)
  | clearMemoryCache
  | setHealth (health : KeyHealth)
  | selectKey (provider : String) (options : SelectKeyOptions κ) (now : Int) (draw : Nat)

def Op.selects {κ : Type} : Op κ → Bool
  | .selectKey .. => true
  | _ => false

variable [Host] {κ : Type} [SelectableKey κ] (sel : KeySelector)

def step (st : State κ) : Op κ → State κ
  | .addKey key => addKey st key
  | .removeKey id => (removeKey st id).2
  | .setKeys keys => setKeys st keys
  | .clearKeys => clearKeys st
  | .recordUsage id => recordUsage st id
  | .clearMemoryCache => clearMemoryCache st
  | .setHealth health => { st with health }
  | .selectKey provider options now draw => (sel.selectKey st provider options now draw).2

/-- The key a selection returns. -/
def picked (st : State κ) : Op κ → Option κ
  | .selectKey provider options now draw =>
    match (sel.selectKey st provider options now draw).1 with
    | .ok key => key
    | .error _ => none
  | _ => none

/-- The keys of a run's selections, in order. -/
def picks : State κ → List (Op κ) → List κ
  | _, [] => []
  | st, op :: rest => (sel.picked st op).toList ++ picks (sel.step st op) rest

/-- Where the next turn of a provider starts. -/
def pointer (indices : RoundRobinIndices) (provider : String) : Nat :=
  (sel.getOrLoadRoundRobinIndex indices provider).1

/-- Selections go round the same healthy keys, and what is forgotten is in storage. -/
def Steady (keys : List κ) (st : State κ) : Op κ → Prop
  | .selectKey provider options now _ =>
    sel.offered st provider options now = keys ∧
      (options.strategy.getD sel.defaultStrategy).takesTurns = true
  | .clearKeys | .clearMemoryCache => sel.storage = true
  | _ => True

/-! ## The pointers -/

/-- Pointers are below the bound, and storage has those that are cached. -/
structure PointersKept (indices : RoundRobinIndices) : Prop where
  stored : ∀ norm, indices.stored sel.roundRobinKey 0 norm < 1000000
  cached : ∀ norm index, indices.cache norm = some index →
    index < 1000000 ∧ (sel.storage = true → indices.stored sel.roundRobinKey 0 norm = index)

omit [Host] in
theorem roundRobinKey_injective : Function.Injective sel.roundRobinKey := by
  intro norm other same
  simp only [roundRobinKey, String.append_assoc, String.append_right_inj] at same
  exact same

variable {sel} {indices : RoundRobinIndices}

omit [Host] in
theorem PointersKept.empty : sel.PointersKept CachedStore.empty where
  stored _ := by
    change 0 < 1000000
    decide
  cached norm index found := by cases found

omit [Host] in
theorem PointersKept.evict (kept : sel.PointersKept indices) : sel.PointersKept indices.evict where
  stored := kept.stored
  cached norm index found := by cases found

theorem pointer_eq (indices : RoundRobinIndices) (provider : String) :
    sel.pointer indices provider = (indices.cache (normalizeProvider provider)).getD
      (if sel.storage then indices.stored sel.roundRobinKey 0 (normalizeProvider provider) else 0) := by
  simp only [pointer, getOrLoadRoundRobinIndex]
  split
  · rename_i found
    rw [found, Option.getD_some]
  · rename_i absent
    rw [absent, Option.getD_none]
    split <;> rfl

theorem PointersKept.pointer_lt (kept : sel.PointersKept indices) (provider : String) :
    sel.pointer indices provider < 1000000 := by
  rw [pointer_eq]
  cases cached : indices.cache (normalizeProvider provider) with
  | some index => exact (kept.cached _ index cached).1
  | none =>
    rw [Option.getD_none]
    split
    · exact kept.stored _
    · decide

/-- With storage, forgetting the cached pointers moves none. -/
theorem PointersKept.pointer_evict (kept : sel.PointersKept indices) (storage : sel.storage = true)
    (provider : String) : sel.pointer indices.evict provider = sel.pointer indices provider := by
  rw [pointer_eq, pointer_eq, if_pos storage]
  cases cached : indices.cache (normalizeProvider provider) with
  | some index => exact (kept.cached _ index cached).2 storage
  | none => simp only [storage, ↓reduceIte]; rfl

theorem PointersKept.getOrLoad (kept : sel.PointersKept indices) (provider : String) :
    sel.PointersKept (sel.getOrLoadRoundRobinIndex indices provider).2 := by
  simp only [getOrLoadRoundRobinIndex]
  split
  · exact kept
  · split
    · refine ⟨kept.stored, fun norm index found => ?_⟩
      by_cases same : norm = normalizeProvider provider
      · subst same
        simp only [CachedStore.setCache, Function.update_self, Option.some.injEq] at found
        subst found
        exact ⟨kept.stored _, fun _ => rfl⟩
      · simp only [CachedStore.setCache, Function.update_of_ne same] at found
        exact kept.cached norm index found
    · exact kept

theorem PointersKept.persist (kept : sel.PointersKept indices) (provider : String) {index : Nat}
    (less : index < 1000000) :
    sel.PointersKept (sel.persistRoundRobinIndex indices provider index) := by
  simp only [persistRoundRobinIndex]
  split
  · constructor
    · intro norm
      by_cases same : norm = normalizeProvider provider
      · subst same
        rwa [CachedStore.stored_save_self]
      · rw [(CachedStore.agreeAt_save sel.roundRobinKey_injective indices index same).stored]
        exact kept.stored norm
    · intro norm other found
      by_cases same : norm = normalizeProvider provider
      · subst same
        simp only [CachedStore.save, Function.update_self, Option.some.injEq] at found
        subst found
        exact ⟨less, fun _ => CachedStore.stored_save_self ..⟩
      · have agree := CachedStore.agreeAt_save sel.roundRobinKey_injective indices index same
        rw [agree.1] at found
        rw [agree.stored]
        exact kept.cached norm other found
  · rename_i memory
    refine ⟨kept.stored, fun norm other found => ?_⟩
    by_cases same : norm = normalizeProvider provider
    · subst same
      simp only [CachedStore.setCache, Function.update_self, Option.some.injEq] at found
      subst found
      exact ⟨less, fun storage => absurd storage memory⟩
    · simp only [CachedStore.setCache, Function.update_of_ne same] at found
      exact kept.cached norm other found

theorem pointer_persist (indices : RoundRobinIndices) (provider : String) (index : Nat) :
    sel.pointer (sel.persistRoundRobinIndex indices provider index) provider = index := by
  rw [pointer_eq, persistRoundRobinIndex]
  split
  · simp [CachedStore.save]
  · simp [CachedStore.setCache]

/-! ## One selection -/

omit [SelectableKey κ] in
/-- A turn picks the key the pointer names and moves the pointer on. -/
theorem selectRoundRobin_turn (sel : KeySelector) {indices : RoundRobinIndices} (ctx : StrategyContext) {keys : List κ} (nonempty : keys ≠ [])
    (kept : sel.PointersKept indices) :
    (selectRoundRobin sel ctx keys nonempty indices).1 =
        Wraparound.item keys nonempty (sel.pointer indices ctx.provider) ∧
      sel.pointer (selectRoundRobin sel ctx keys nonempty indices).2 ctx.provider =
        (sel.pointer indices ctx.provider + 1) % 1000000 ∧
      sel.PointersKept (selectRoundRobin sel ctx keys nonempty indices).2 := by
  refine ⟨rfl, pointer_persist _ _ _, ?_⟩
  exact (kept.getOrLoad ctx.provider).persist ctx.provider (Nat.mod_lt _ (by decide))

/-- A strategy goes round some of the keys, or leaves the pointers alone. -/
theorem pick_indices (strategy : KeySelectionStrategy) (provider : String) (now : Int)
    (draw : Nat) {keys : List κ} (nonempty : keys ≠ []) (st : State κ)
    (kept : sel.PointersKept st.roundRobinIndices) :
    sel.PointersKept (sel.pick strategy provider now draw keys nonempty st).2.roundRobinIndices := by
  cases strategy with
  | leastUsed => exact kept
  | loadBalanced => exact kept
  | random => exact kept
  | priority =>
    simp only [pick, selectPriority]
    split
    · exact kept
    · exact (selectRoundRobin_turn sel _ _ kept).2.2
  | roundRobin => exact (selectRoundRobin_turn sel _ nonempty kept).2.2
  | costOptimal => exact (selectRoundRobin_turn sel _ nonempty kept).2.2
  | lowestLatency => exact (selectRoundRobin_turn sel _ nonempty kept).2.2
  | cascade => exact (selectRoundRobin_turn sel _ nonempty kept).2.2

theorem selectKey_indices {st : State κ} (kept : sel.PointersKept st.roundRobinIndices)
    (provider : String) (options : SelectKeyOptions κ) (now : Int) (draw : Nat) :
    sel.PointersKept (sel.selectKey st provider options now draw).2.roundRobinIndices := by
  obtain ⟨-, health, eq, -⟩ := sel.triageForSelection_spec st provider options now
  simp only [selectKey, eq]
  split
  · split <;> exact kept
  · exact pick_indices _ _ _ _ _ _ kept

/-- A selection among keys that are healthy picks the one whose turn it is. -/
theorem selectKey_turn {st : State κ} (kept : sel.PointersKept st.roundRobinIndices)
    {provider : String} {options : SelectKeyOptions κ} {now : Int} (draw : Nat) {keys : List κ}
    (nonempty : keys ≠ []) (offered : sel.offered st provider options now = keys)
    (turns : (options.strategy.getD sel.defaultStrategy).takesTurns = true) :
    let first := SelectableKey.provider (keys.head nonempty)
    (sel.selectKey st provider options now draw).1 =
        .ok (some (Wraparound.item keys nonempty (sel.pointer st.roundRobinIndices first))) ∧
      sel.pointer (sel.selectKey st provider options now draw).2.roundRobinIndices first =
        (sel.pointer st.roundRobinIndices first + 1) % 1000000 := by
  obtain ⟨found, health, eq, -⟩ := sel.triageForSelection_spec st provider options now
  rw [offered] at found
  obtain ⟨first, rest, rfl⟩ := List.exists_cons_of_ne_nil nonempty
  have turn := fun ctx => selectRoundRobin_turn sel ctx nonempty kept
  simp only [selectKey, found, eq]
  generalize options.strategy.getD sel.defaultStrategy = strategy at turns
  cases strategy with
  | leastUsed => cases turns
  | loadBalanced => cases turns
  | priority => cases turns
  | random => cases turns
  | roundRobin => exact ⟨congrArg (Except.ok ∘ some) (turn _).1, (turn _).2.1⟩
  | costOptimal => exact ⟨congrArg (Except.ok ∘ some) (turn _).1, (turn _).2.1⟩
  | lowestLatency => exact ⟨congrArg (Except.ok ∘ some) (turn _).1, (turn _).2.1⟩
  | cascade => exact ⟨congrArg (Except.ok ∘ some) (turn _).1, (turn _).2.1⟩

theorem step_pointers {st : State κ} (kept : sel.PointersKept st.roundRobinIndices) (op : Op κ) :
    sel.PointersKept (sel.step st op).roundRobinIndices := by
  cases op with
  | selectKey provider options now draw => exact selectKey_indices kept provider options now draw
  | clearKeys => exact kept.evict
  | clearMemoryCache => exact kept.evict
  | addKey => exact kept
  | removeKey => exact kept
  | setKeys => exact kept
  | recordUsage => exact kept
  | setHealth => exact kept

theorem run_pointers {st : State κ} (kept : sel.PointersKept st.roundRobinIndices)
    (ops : List (Op κ)) : sel.PointersKept (ops.foldl sel.step st).roundRobinIndices := by
  induction ops generalizing st with
  | nil => exact kept
  | cons op rest ih => exact ih (step_pointers kept op)

/-! ## Runs -/

/-- A steady run takes its turns from the pointer it starts with. -/
theorem picks_steady {keys : List κ} (nonempty : keys ≠ []) {st : State κ}
    (kept : sel.PointersKept st.roundRobinIndices) {window : List (Op κ)}
    (steady : Transition.Guarded sel.step (sel.Steady keys) st window) :
    let first := SelectableKey.provider (keys.head nonempty)
    sel.picks st window = (Wraparound.places 1000000 keys.length (window.countP Op.selects)
        (sel.pointer st.roundRobinIndices first)).map (Wraparound.item keys nonempty) ∧
      sel.pointer (window.foldl sel.step st).roundRobinIndices first =
        (sel.pointer st.roundRobinIndices first + window.countP Op.selects) % 1000000 := by
  intro first
  induction window generalizing st with
  | nil => exact ⟨rfl, (Nat.mod_eq_of_lt (kept.pointer_lt first)).symm⟩
  | cons op rest ih =>
    obtain ⟨now, later⟩ := steady
    obtain ⟨turns, ending⟩ := ih (step_pointers kept op) later
    have still (unselected : op.selects = false) (unpicked : sel.picked st op = none)
        (same : sel.pointer (sel.step st op).roundRobinIndices first =
          sel.pointer st.roundRobinIndices first) :
        sel.picks st (op :: rest) = (Wraparound.places 1000000 keys.length
            ((op :: rest).countP Op.selects) (sel.pointer st.roundRobinIndices first)).map
              (Wraparound.item keys nonempty) ∧
          sel.pointer ((op :: rest).foldl sel.step st).roundRobinIndices first =
            (sel.pointer st.roundRobinIndices first + (op :: rest).countP Op.selects) % 1000000 := by
      rw [same] at turns ending
      rw [picks, unpicked, turns, List.foldl_cons, ending,
        List.countP_cons_of_neg (by simp [unselected])]
      exact ⟨rfl, rfl⟩
    cases op with
    | selectKey provider options time draw =>
      obtain ⟨pick, moved⟩ := selectKey_turn kept draw nonempty now.1 now.2
      have counted : (Op.selectKey provider options time draw :: rest).countP Op.selects =
          rest.countP Op.selects + 1 := List.countP_cons_of_pos rfl
      simp only [step] at turns ending
      simp only [picks, picked, pick, step, turns, List.foldl_cons, ending, counted, first]
      constructor
      · rw [moved, Wraparound.places, List.map_cons]
        simp [Wraparound.item]
      · rw [moved, Nat.mod_add_mod, Nat.add_assoc, Nat.add_comm 1]
    | clearKeys => exact still rfl rfl (kept.pointer_evict now first)
    | clearMemoryCache => exact still rfl rfl (kept.pointer_evict now first)
    | addKey => exact still rfl rfl rfl
    | removeKey => exact still rfl rfl rfl
    | setKeys => exact still rfl rfl rfl
    | recordUsage => exact still rfl rfl rfl
    | setHealth => exact still rfl rfl rfl

/-- In every run of a selector, as many round-robin selections in a row as there are healthy
keys pick each of them once exactly when the pointer does not wrap among them, or their
number divides its bound. -/
theorem round_robin_fair_iff (sel : KeySelector) (earlier window : List (Op κ)) {keys : List κ}
    (distinct : keys.Nodup) (nonempty : keys ≠ [])
    (steady : Transition.Guarded sel.step (sel.Steady keys) (earlier.foldl sel.step .fresh) window)
    (full : window.countP Op.selects = keys.length) :
    (sel.picks (earlier.foldl sel.step .fresh) window).Perm keys ↔
      sel.pointer (earlier.foldl sel.step .fresh).roundRobinIndices
          (SelectableKey.provider (keys.head nonempty)) + keys.length ≤ 1000000 ∨
        keys.length ∣ 1000000 := by
  have empty : sel.PointersKept (State.fresh : State κ).roundRobinIndices := PointersKept.empty
  have kept := run_pointers empty earlier
  rw [(picks_steady nonempty kept steady).1, full]
  exact Wraparound.items_perm_iff distinct nonempty (kept.pointer_lt _)

end KeySelector

section Examples

attribute [local instance] asciiHost

namespace KeySelector

/-- A selector over storage, without a breaker or a limiter. -/
def turnSelector : KeySelector where
  tenantId := none
  defaultStrategy := .roundRobin
  circuitBreaker := none
  rateLimiter := none
  storage := true
  storageKeyPrefix := "ks:"

def threeKeys : List EncryptedKey :=
  ["k1", "k2", "k3"].map fun id =>
    { id, tenantId := some "acme", provider := "groq", ciphertext := "c", nonce := "n" }

def selectTimes (times : Nat) : List (Op EncryptedKey) :=
  List.replicate times (.selectKey "groq" {} 0 0)

theorem offered_three {st : State EncryptedKey} (three : st.keysMap.values = threeKeys) :
    turnSelector.offered st "groq" {} 0 = threeKeys := by
  have healthy : ∀ key ∈ threeKeys, turnSelector.isHealthy st {} 0 key = true := by
    intro key mem
    simp only [threeKeys, List.map_cons, List.map_nil, List.mem_cons, List.not_mem_nil,
      or_false] at mem
    rcases mem with rfl | rfl | rfl <;> rfl
  have provided : getKeys st (some "groq") = threeKeys := by
    rw [getKeys, three]
    decide
  have considered : turnSelector.considered st "groq" {} 0 = threeKeys := by
    simp [KeySelector.considered, provided]
  rw [offered, considered]
  exact List.filter_eq_self.mpr healthy

/-- The selector with its three keys, after a number of selections. -/
def afterTurns (times : Nat) : State EncryptedKey :=
  (Op.setKeys threeKeys :: selectTimes times).foldl turnSelector.step .fresh

theorem loaded_three : (setKeys State.fresh threeKeys).keysMap.values = threeKeys := rfl

theorem keysMap_selectTimes (times : Nat) {st : State EncryptedKey}
    (three : st.keysMap.values = threeKeys) :
    ((selectTimes times).foldl turnSelector.step st).keysMap.values = threeKeys := by
  induction times generalizing st with
  | zero => exact three
  | succ times ih =>
    apply ih
    rw [step, selectKey_keysMap]
    exact three

theorem steady_selectTimes (times : Nat) {st : State EncryptedKey}
    (three : st.keysMap.values = threeKeys) :
    Transition.Guarded turnSelector.step (turnSelector.Steady threeKeys) st
      (selectTimes times) := by
  induction times generalizing st with
  | zero => trivial
  | succ times ih =>
    refine ⟨⟨offered_three three, rfl⟩, ih ?_⟩
    rw [step, selectKey_keysMap]
    exact three

theorem count_selectTimes (times : Nat) : (selectTimes times).countP Op.selects = times := by
  simp [selectTimes, List.countP_replicate, Op.selects]

theorem steady_afterTurns (times : Nat) :
    Transition.Guarded turnSelector.step (turnSelector.Steady threeKeys) (afterTurns times)
      (selectTimes 3) :=
  steady_selectTimes 3 (keysMap_selectTimes times loaded_three)

theorem picks_afterTurns (times : Nat) :
    turnSelector.picks (afterTurns times) (selectTimes 3) =
      (Wraparound.places 1000000 3 3 (times % 1000000)).map
        (Wraparound.item threeKeys (by decide)) := by
  have empty : turnSelector.PointersKept (setKeys State.fresh threeKeys).roundRobinIndices :=
    PointersKept.empty
  have kept : turnSelector.PointersKept (afterTurns times).roundRobinIndices :=
    run_pointers PointersKept.empty (Op.setKeys threeKeys :: selectTimes times)
  have loaded := steady_selectTimes times loaded_three
  have pointed := (picks_steady (by decide) empty loaded).2
  have turns := (picks_steady (by decide) kept (steady_afterTurns times)).1
  have start : turnSelector.pointer (setKeys State.fresh threeKeys).roundRobinIndices "groq" = 0 :=
    rfl
  rw [count_selectTimes] at pointed turns
  change turnSelector.pointer (afterTurns times).roundRobinIndices "groq" = _ at pointed
  rw [turns]
  change (Wraparound.places 1000000 3 3
    (turnSelector.pointer (afterTurns times).roundRobinIndices "groq")).map _ = _
  rw [pointed]
  change (Wraparound.places 1000000 3 3 ((turnSelector.pointer
    (setKeys State.fresh threeKeys).roundRobinIndices "groq" + times) % 1000000)).map _ = _
  rw [start, Nat.zero_add]

theorem round_robin_fair_three :
    (turnSelector.picks (afterTurns 0) (selectTimes 3)).Perm threeKeys ↔
      turnSelector.pointer (afterTurns 0).roundRobinIndices "groq" + 3 ≤ 1000000 ∨
        3 ∣ 1000000 :=
  round_robin_fair_iff turnSelector [.setKeys threeKeys] (selectTimes 3) (by decide) (by decide)
    (steady_afterTurns 0) (count_selectTimes 3)

/-- Three keys, from the last pointer before the wrap on: the first key is picked twice and
the third is not. -/
theorem round_robin_unfair :
    Transition.Guarded turnSelector.step (turnSelector.Steady threeKeys) (afterTurns 999999)
        (selectTimes 3) ∧
      (turnSelector.picks (afterTurns 999999) (selectTimes 3)).map keyId = ["k1", "k1", "k2"] ∧
      ¬ (turnSelector.picks (afterTurns 999999) (selectTimes 3)).Perm threeKeys := by
  have picked : (turnSelector.picks (afterTurns 999999) (selectTimes 3)).map keyId =
      ["k1", "k1", "k2"] := by
    rw [picks_afterTurns]
    decide
  refine ⟨steady_afterTurns 999999, picked, fun perm => ?_⟩
  have ids := perm.map keyId
  rw [picked] at ids
  exact absurd ids (by decide)

end KeySelector

end Examples

end KeyCollective
