import KeyCollective.Pool.KeyPool

/-!
# Evicted pools

A pool counts its dispatches in memory and puts each count in storage. A new instance
counts from zero: nothing reads the counts in storage back.
-/

namespace KeyCollective.KeyPool

variable (pool : KeyPool)

/-- A new instance, constructed over the storage of the one before it. -/
def construct (st : State) : State where
  tenantId := pool.resolvedTenant
  isLoaded := false
  dispatchedToday := fun _ => 0
  dispatchedCommunal := fun _ => 0
  keysMap := .empty
  selector :=
    { keysMap := .empty
      roundRobinIndices := st.selector.roundRobinIndices.evict
      usageCounts := fun _ => 0
      health :=
        { breaker := CircuitBreaker.clearMemoryCache st.selector.health.breaker
          limiter := RateLimiter.clearMemoryCache st.selector.health.limiter } }
  storedKeys := st.storedKeys
  storedTenantId := st.storedTenantId

inductive Classification where
  | normal
  | hero
  | parasite
deriving DecidableEq, Repr

/-- What `alarm` reports of a key. -/
structure KeyClassification where
  classification : Classification
  ratio : Rat
deriving DecidableEq

/-- The share of a key's dispatches that were communal, and what that makes the key. -/
def classify (total communal : Nat) : KeyClassification :=
  let ratio : Rat := communal / total
  { classification := if 4 / 5 ≤ ratio then .hero else if ratio < 1 / 10 then .parasite else .normal
    ratio }

/-- An instance with the counters it has put under `dispatch:today:` and
`dispatch:communal:`. -/
structure Instance where
  st : State
  storedToday : String → Option Nat
  storedCommunal : String → Option Nat

namespace Instance

def recordDispatch (inst : Instance) (id : String) (isCommunal : Bool) : Instance :=
  let st := KeyPool.recordDispatch inst.st id isCommunal
  { st
    storedToday := Function.update inst.storedToday id (some (st.dispatchedToday id))
    storedCommunal :=
      if isCommunal then
        Function.update inst.storedCommunal id (some (st.dispatchedCommunal id))
      else inst.storedCommunal }

/-- The classification of each key counted since the last alarm. The counters in storage
are left as they are. -/
def alarm (inst : Instance) : (String → Option KeyClassification) × Instance :=
  (fun id =>
      if 0 < inst.st.dispatchedToday id then
        some (classify (inst.st.dispatchedToday id) (inst.st.dispatchedCommunal id))
      else none,
    { inst with
      st := { inst.st with dispatchedToday := fun _ => 0, dispatchedCommunal := fun _ => 0 } })

def evict (inst : Instance) : Instance := { inst with st := pool.construct inst.st }

end Instance

inductive CounterOp where
  | recordDispatch (keyId : String) (isCommunal : Bool)
  | evict
deriving DecidableEq, Repr

def count (inst : Instance) : CounterOp → Instance
  | .recordDispatch keyId isCommunal => inst.recordDispatch keyId isCommunal
  | .evict => inst.evict pool

/-- The counters of an instance, in memory and in storage. -/
def Instance.counters (inst : Instance) :
    (String → Nat) × (String → Nat) × (String → Option Nat) × (String → Option Nat) :=
  (inst.st.dispatchedToday, inst.st.dispatchedCommunal, inst.storedToday, inst.storedCommunal)

/-- How the next alarm classifies each key, and the counters in storage after it. -/
def Instance.report (inst : Instance) :
    (String → Option Classification) × (String → Option Nat) × (String → Option Nat) :=
  (fun id => (inst.alarm.1 id).map (·.classification), inst.alarm.2.storedToday,
    inst.alarm.2.storedCommunal)

def dispatchesOf (id : String) (ops : List CounterOp) : Nat :=
  (ops.filter fun
    | .recordDispatch keyId _ => keyId = id
    | .evict => false).length

/-- No instance is replaced once a dispatch has been counted. -/
def Undisturbed (ops : List CounterOp) : Prop :=
  ∀ before after, ops = before ++ .evict :: after →
    ∀ id isCommunal, .recordDispatch id isCommunal ∉ before

/-- No count is held in memory, as after an alarm. -/
def Instance.Reset (inst : Instance) : Prop :=
  inst.st.dispatchedToday = (fun _ => 0) ∧ inst.st.dispatchedCommunal = fun _ => 0

/-- A count in memory has been put in storage. -/
def Instance.Written (inst : Instance) : Prop :=
  ∀ id, 0 < inst.st.dispatchedToday id → inst.storedToday id = some (inst.st.dispatchedToday id)

variable {pool} {inst other : Instance} {ops : List CounterOp}

theorem reset_alarm (inst : Instance) : inst.alarm.2.Reset := ⟨rfl, rfl⟩

theorem reset_evict (inst : Instance) : (inst.evict pool).Reset := ⟨rfl, rfl⟩

theorem written_reset (reset : inst.Reset) : inst.Written := by
  intro id counted
  simp only [reset.1, Nat.lt_irrefl] at counted

theorem dispatchesOf_append (id : String) (earlier later : List CounterOp) :
    dispatchesOf id (earlier ++ later) = dispatchesOf id earlier + dispatchesOf id later := by
  simp [dispatchesOf]

theorem report_counters (same : inst.counters = other.counters) : inst.report = other.report := by
  simp only [Instance.counters, Prod.mk.injEq] at same
  obtain ⟨today, communal, storedToday, storedCommunal⟩ := same
  simp only [Instance.report, Instance.alarm, today, communal, storedToday, storedCommunal]

theorem counters_count (same : inst.counters = other.counters) (id : String)
    (isCommunal : Bool) :
    (pool.count inst (.recordDispatch id isCommunal)).counters =
      (pool.count other (.recordDispatch id isCommunal)).counters := by
  simp only [Instance.counters, Prod.mk.injEq] at same
  obtain ⟨today, communal, storedToday, storedCommunal⟩ := same
  simp only [count, Instance.recordDispatch, Instance.counters, recordDispatch, today, communal,
    storedToday, storedCommunal]

theorem counters_kept (same : inst.counters = other.counters) :
    ((ops.filter (· ≠ .evict)).foldl pool.count inst).counters =
      ((ops.filter (· ≠ .evict)).foldl pool.count other).counters := by
  induction ops generalizing inst other with
  | nil => exact same
  | cons op rest ih =>
    cases op with
    | recordDispatch id isCommunal =>
      simpa using ih (counters_count same id isCommunal)
    | evict => simpa using ih same

/-- A new instance in place of one that holds no count. -/
theorem counters_evict (reset : inst.Reset) : (inst.evict pool).counters = inst.counters := by
  obtain ⟨today, communal⟩ := reset
  simp only [Instance.counters, Instance.evict, construct, today, communal]

theorem undisturbed_tail {op : CounterOp} {rest : List CounterOp}
    (undisturbed : Undisturbed (op :: rest)) : Undisturbed rest := by
  intro before after split id isCommunal counted
  exact undisturbed (op :: before) after (by rw [split, List.cons_append]) id isCommunal
    (List.mem_cons_of_mem _ counted)

theorem kept_of_counted {id : String} {isCommunal : Bool} {rest : List CounterOp}
    (undisturbed : Undisturbed (.recordDispatch id isCommunal :: rest)) :
    rest.filter (· ≠ .evict) = rest := by
  apply List.filter_eq_self.mpr
  intro op member
  apply decide_eq_true
  rintro rfl
  obtain ⟨before, after, split⟩ := List.append_of_mem member
  exact undisturbed (.recordDispatch id isCommunal :: before) after (by rw [split]; rfl) id
    isCommunal List.mem_cons_self

theorem counters_undisturbed (reset : inst.Reset) (undisturbed : Undisturbed ops) :
    (ops.foldl pool.count inst).counters =
      ((ops.filter (· ≠ .evict)).foldl pool.count inst).counters := by
  induction ops generalizing inst with
  | nil => rfl
  | cons op rest ih =>
    cases op with
    | recordDispatch id isCommunal =>
      have kept := kept_of_counted undisturbed
      rw [List.filter_cons_of_pos (by simp), kept]
    | evict =>
      rw [List.filter_cons_of_neg (by simp), List.foldl_cons]
      calc (rest.foldl pool.count (inst.evict pool)).counters
          = ((rest.filter (· ≠ .evict)).foldl pool.count (inst.evict pool)).counters :=
            ih (reset_evict inst) (undisturbed_tail undisturbed)
        _ = ((rest.filter (· ≠ .evict)).foldl pool.count inst).counters :=
            counters_kept (counters_evict reset)

theorem written_count (written : inst.Written) (op : CounterOp) :
    (pool.count inst op).Written := by
  cases op with
  | evict => exact written_reset (reset_evict inst)
  | recordDispatch keyId isCommunal =>
    intro id counted
    simp only [count, Instance.recordDispatch, recordDispatch] at counted ⊢
    by_cases same : id = keyId
    · subst same
      simp only [Function.update_self]
    · rw [Function.update_of_ne same] at counted
      rw [Function.update_of_ne same, Function.update_of_ne same]
      exact written id counted

theorem written_run (pool : KeyPool) (written : inst.Written) (ops : List CounterOp) :
    (ops.foldl pool.count inst).Written := by
  induction ops generalizing inst with
  | nil => exact written
  | cons op rest ih => exact ih (written_count written op)

theorem today_count (id : String) (inst : Instance) (keyId : String) (isCommunal : Bool) :
    (pool.count inst (.recordDispatch keyId isCommunal)).st.dispatchedToday id =
      inst.st.dispatchedToday id + dispatchesOf id [.recordDispatch keyId isCommunal] := by
  simp only [count, Instance.recordDispatch, recordDispatch, dispatchesOf]
  by_cases same : id = keyId
  · subst same
    simp
  · simp [Function.update_of_ne same, Ne.symm same]

/-- Without evictions every dispatch is counted. -/
theorem today_kept (pool : KeyPool) (id : String) (inst : Instance) (ops : List CounterOp) :
    ((ops.filter (· ≠ .evict)).foldl pool.count inst).st.dispatchedToday id =
      inst.st.dispatchedToday id + dispatchesOf id ops := by
  induction ops generalizing inst with
  | nil => rfl
  | cons op rest ih =>
    have split := dispatchesOf_append id [op] rest
    rw [List.singleton_append] at split
    cases op with
    | recordDispatch keyId isCommunal =>
      rw [List.filter_cons_of_pos (by simp), List.foldl_cons, ih, today_count, split]
      omega
    | evict =>
      rw [List.filter_cons_of_neg (by simp), ih, split]
      simp [dispatchesOf]

theorem today_le (pool : KeyPool) (id : String) (inst : Instance) (ops : List CounterOp) :
    (ops.foldl pool.count inst).st.dispatchedToday id ≤
      inst.st.dispatchedToday id + dispatchesOf id ops := by
  induction ops generalizing inst with
  | nil => exact Nat.le_refl _
  | cons op rest ih =>
    have split := dispatchesOf_append id [op] rest
    rw [List.singleton_append] at split
    have next := ih (pool.count inst op)
    rw [List.foldl_cons]
    cases op with
    | recordDispatch keyId isCommunal =>
      rw [today_count] at next
      omega
    | evict =>
      have zero : (pool.count inst .evict).st.dispatchedToday id = 0 := rfl
      omega

theorem reported_iff (inst : Instance) (id : String) :
    (inst.report.1 id).isSome ↔ 0 < inst.st.dispatchedToday id := by
  simp only [Instance.report, Instance.alarm, Option.isSome_map]
  split <;> simp_all

theorem undisturbed_of_report (reset : inst.Reset)
    (same : (ops.foldl pool.count inst).report =
      ((ops.filter (· ≠ .evict)).foldl pool.count inst).report) : Undisturbed ops := by
  intro before after split id isCommunal counted
  have reports := congrArg Prod.fst same
  have stored := congrArg (fun report => report.2.1) same
  have total := today_kept pool id inst ops
  have partOf := today_le pool id ((before.foldl pool.count inst).evict pool) after
  have onEvict : ((before.foldl pool.count inst).evict pool).st.dispatchedToday id = 0 := rfl
  have run : after.foldl pool.count ((before.foldl pool.count inst).evict pool) =
      ops.foldl pool.count inst := by
    rw [split, List.foldl_append, List.foldl_cons]
    rfl
  rw [run, onEvict] at partOf
  have earlier : 0 < dispatchesOf id before :=
    List.length_pos_of_mem (List.mem_filter.mpr ⟨counted, by simp⟩)
  have parts : dispatchesOf id ops = dispatchesOf id before + dispatchesOf id after := by
    rw [split, dispatchesOf_append]
    simp [dispatchesOf]
  -- Every dispatch is counted in the run without evictions, so the alarm reports the key in
  -- both runs. What is stored for it is then the count in memory, and the counts differ.
  have reported : ((ops.foldl pool.count inst).report.1 id).isSome := by
    rw [reports]
    exact (reported_iff _ id).mpr (by omega)
  have held := written_run pool (written_reset reset) ops id
    ((reported_iff _ id).mp reported)
  have kept := written_run pool (written_reset reset) (ops.filter (· ≠ .evict)) id
    (by omega)
  have equal := congrFun stored id
  simp only [Instance.report, Instance.alarm] at equal
  rw [held, kept, Option.some.injEq] at equal
  omega

/-- The next alarm reports what it would have reported without the evictions, and leaves the
same counters in storage, exactly when no instance was replaced after the first dispatch. -/
theorem counters_survive_iff (pool : KeyPool) (inst : Instance) (ops : List CounterOp) :
    (ops.foldl pool.count inst.alarm.2).report =
        ((ops.filter (· ≠ .evict)).foldl pool.count inst.alarm.2).report ↔
      Undisturbed ops := by
  constructor
  · intro same
    exact undisturbed_of_report (reset_alarm inst) same
  · intro undisturbed
    exact report_counters (counters_undisturbed (reset_alarm inst) undisturbed)

/-- A dispatch of the tenant's own request, an eviction and a communal dispatch: the key was
communal half of the time and is reported as a hero, and one dispatch is left in storage. -/
theorem counters_lost :
    let pool : KeyPool := ⟨"0a1b", "acme", .create {}, .create {}⟩
    let inst : Instance :=
      { st := pool.start, storedToday := fun _ => none, storedCommunal := fun _ => none }
    let ops : List CounterOp :=
      [.recordDispatch "key-1" false, .evict, .recordDispatch "key-1" true]
    let evicted := ops.foldl pool.count inst.alarm.2
    let kept := (ops.filter (· ≠ .evict)).foldl pool.count inst.alarm.2
    evicted.report.1 "key-1" = some .hero ∧
      kept.report.1 "key-1" = some .normal ∧
      evicted.report.2.1 "key-1" = some 1 ∧ kept.report.2.1 "key-1" = some 2 := by
  decide +kernel

end KeyCollective.KeyPool
