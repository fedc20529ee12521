import KeyCollective.Limiter.Safety

/-!
# The backward scan counts every increment

Increments, reads and reloads, each key with the time it was last pruned. From then on both
counts of a key are the counts of its whole history, and a later prune takes nothing that
counts.
-/

namespace KeyCollective.RateLimiter

open SlidingWindow

inductive Event where
  | increment (keyId : Option String) (costMicrodollars now : Int)
  /-- Any of the reading methods: it prunes what it reads. -/
  | read (keyId : Option String) (now : Int)
  /-- `getDataSync`, which prunes what is in memory. -/
  | readSync (keyId : Option String) (now : Int)
  /-- What is read next is loaded from storage again. -/
  | clearMemoryCache
deriving DecidableEq, Repr

/-- A run, and when each key was last read or incremented. -/
structure Log where
  store : Store
  clock : Int
  history : List Increment
  pruned : String → Option Int

def Log.start (clock : Int) : Log := ⟨.empty, clock, [], fun _ => none⟩

variable (r : RateLimiter)

def Log.touch (log : Log) (id : String) (now : Int) (store : Store) : Log :=
  { log with store, clock := now, pruned := Function.update log.pruned id (some now) }

def record (log : Log) : Event → Log
  | .increment keyId cost now =>
    let id := r.resolveKeyId keyId
    let touched := log.touch id now (r.increment log.store keyId cost now)
    { touched with history := log.history ++ [⟨id, now⟩] }
  | .read keyId now =>
    log.touch (r.resolveKeyId keyId) now (r.getData log.store keyId now).2
  | .readSync keyId now =>
    let (data, store) := r.getDataSync log.store keyId now
    if data.isSome then log.touch (r.resolveKeyId keyId) now store else { log with clock := now }
  | .clearMemoryCache => { log with store := clearMemoryCache log.store }

/-- The clock does not run backwards. -/
def OnTime (log : Log) : Event → Prop
  | .increment _ _ now | .read _ now | .readSync _ now => log.clock ≤ now
  | .clearMemoryCache => True

/-- A query at `t` comes after everything that was done to a key. -/
def Log.Current (log : Log) (id : String) (t : Int) : Prop :=
  ∀ last, log.pruned id = some last → last ≤ t

/-- The counters of every key hold its history from its own last prune on. -/
structure Exact (log : Log) : Prop where
  counters : CachedStore.Everywhere r.getStorageKey createDefaultRateLimiterData
    (fun id data => ∀ t, log.Current id t → r.Faithful t data (historyOf log.history id)) log.store
  past : ∀ id last, log.pruned id = some last → last ≤ log.clock
  recorded : ∀ a ∈ log.history, ∃ last, log.pruned a.keyId = some last ∧ a.timestamp ≤ last

variable {r}

theorem Exact.start (clock : Int) : r.Exact (.start clock) where
  counters := .empty fun _ t _ => .default t
  past _ _ absent := by cases absent
  recorded _ absent := absurd absent List.not_mem_nil

@[simp] theorem Log.touch_pruned_self (log : Log) (id : String) (now : Int) (store : Store) :
    (log.touch id now store).pruned id = some now := Function.update_self ..

theorem Log.touch_pruned_of_ne (log : Log) {id other : String} (ne : other ≠ id) (now : Int)
    (store : Store) : (log.touch id now store).pruned other = log.pruned other :=
  Function.update_of_ne ne ..

theorem Log.current_touch {log : Log} {id other : String} {now t : Int} {store : Store} :
    (log.touch id now store).Current other t ↔
      if other = id then now ≤ t else log.Current other t := by
  by_cases same : other = id
  · subst same
    simp [Log.Current]
  · simp [Log.Current, log.touch_pruned_of_ne same, same]

theorem Exact.current {log : Log} (exact : r.Exact log) (id : String) {now : Int}
    (le : log.clock ≤ now) : log.Current id now :=
  fun last pruned => (exact.past id last pruned).trans le

/-- After a prune at `now`, later queries than that are left. -/
theorem Exact.current_of_touch {log : Log} (exact : r.Exact log) {id other : String}
    {now t : Int} {store : Store} (le : log.clock ≤ now)
    (current : (log.touch id now store).Current other t) : log.Current other t := by
  rw [Log.current_touch] at current
  split at current
  · exact exact.current other (le.trans current)
  · exact current

/-- What a reader at `now` is given holds the history from then on. -/
theorem Exact.view {log : Log} (exact : r.Exact log) (id : String) {now t : Int}
    (le : log.clock ≤ now) (later : now ≤ t) :
    r.Faithful t (r.view log.store id now) (historyOf log.history id) :=
  ((exact.counters id).2 now (exact.current id le)).prune.later later

theorem Exact.touched {log : Log} (exact : r.Exact log) (id : String) {now : Int}
    (le : log.clock ≤ now) {store : Store}
    (counters : CachedStore.Everywhere r.getStorageKey createDefaultRateLimiterData
      (fun other data => ∀ t, (log.touch id now store).Current other t →
        r.Faithful t data (historyOf log.history other)) store) :
    r.Exact (log.touch id now store) where
  counters := counters
  past other last pruned := by
    by_cases same : other = id
    · subst same
      rw [Log.touch_pruned_self] at pruned
      exact (Option.some.inj pruned).symm.le
    · rw [log.touch_pruned_of_ne same] at pruned
      exact (exact.past other last pruned).trans le
  recorded a mem := by
    obtain ⟨last, pruned, before⟩ := exact.recorded a mem
    by_cases same : a.keyId = id
    · refine ⟨now, ?_, (before.trans (exact.past _ _ pruned)).trans le⟩
      rw [same, Log.touch_pruned_self]
    · exact ⟨last, by rwa [log.touch_pruned_of_ne same], before⟩

theorem Exact.read {log : Log} (exact : r.Exact log) (keyId : Option String) {now : Int}
    (le : log.clock ≤ now) :
    r.Exact (log.touch (r.resolveKeyId keyId) now (r.getData log.store keyId now).2) := by
  refine exact.touched _ le (CachedStore.Everywhere.setCache (exact.counters.imp ?_) ?_)
  · exact fun other data faithful t current => faithful t (exact.current_of_touch le current)
  · intro t current
    rw [Log.current_touch, if_pos rfl] at current
    exact exact.view _ le current

theorem Exact.readSync {log : Log} (exact : r.Exact log) (keyId : Option String) {now : Int}
    (le : log.clock ≤ now) : r.Exact (r.record log (.readSync keyId now)) := by
  simp only [record]
  cases cached : log.store.cache (r.resolveKeyId keyId) with
  | none =>
    simp only [getDataSync, cached, Option.isSome_none, Bool.false_eq_true, if_false]
    exact ⟨exact.counters, fun id last pruned => (exact.past id last pruned).trans le,
      exact.recorded⟩
  | some data =>
    have loaded : r.load log.store (r.resolveKeyId keyId) = data := by
      simp only [load, CachedStore.load, cached, Option.getD_some]
    have read := exact.read keyId le
    simp only [getData, RateLimiter.view, loaded] at read
    simpa only [getDataSync, cached, Option.isSome_some, if_true] using read

theorem Exact.increment {log : Log} (exact : r.Exact log) (keyId : Option String) (cost : Int)
    {now : Int} (le : log.clock ≤ now) : r.Exact (r.record log (.increment keyId cost now)) := by
  have read := exact.read (some (r.resolveKeyId keyId)) le
  refine ⟨?_, read.past, fun a mem => ?_⟩
  · change CachedStore.Everywhere r.getStorageKey createDefaultRateLimiterData
      (fun other data => ∀ t,
        (log.touch (r.resolveKeyId keyId) now (r.increment log.store keyId cost now)).Current
            other t →
          r.Faithful t data (historyOf (log.history ++ [⟨r.resolveKeyId keyId, now⟩]) other))
      (r.increment log.store keyId cost now)
    refine read.counters.save r.getStorageKey_injective ?_ fun other data ne faithful => ?_
    · intro t current
      rw [Log.current_touch, if_pos rfl] at current
      rw [historyOf_snoc_self]
      exact (((exact.view _ le le_rfl).count _).prune).later current
    · rwa [historyOf_snoc_of_ne _ _ ne]
  · rcases List.mem_append.mp mem with mem | mem
    · exact read.recorded a mem
    · rw [List.mem_singleton.mp mem]
      exact ⟨now, Function.update_self .., le_rfl⟩

theorem Exact.record (log : Log) (event : Event) (exact : r.Exact log)
    (onTime : OnTime log event) : r.Exact (r.record log event) := by
  cases event with
  | increment keyId cost now => exact exact.increment keyId cost onTime
  | read keyId now => exact exact.read keyId onTime
  | readSync keyId now => exact exact.readSync keyId onTime
  | clearMemoryCache => exact ⟨exact.counters.evict, exact.past, exact.recorded⟩

/-! ## The counts -/

/-- The counters of a key, in storage or as they are loaded. -/
def Log.Holds (r : RateLimiter) (log : Log) (id : String) (data : RateLimiterData) : Prop :=
  data = log.store.stored r.getStorageKey createDefaultRateLimiterData id ∨
    data = r.load log.store id

/-- No increment of the key comes after `t`. -/
def Log.Latest (log : Log) (id : String) (t : Int) : Prop :=
  ∀ a ∈ log.history, a.keyId = id → a.timestamp ≤ t

theorem Exact.faithful {log : Log} (exact : r.Exact log) {id : String} {data : RateLimiterData}
    (holds : log.Holds r id data) {t : Int} (current : log.Current id t) :
    r.Faithful t data (historyOf log.history id) := by
  rcases holds with rfl | rfl
  · exact (exact.counters id).1 t current
  · exact (exact.counters id).2 t current

/-- A window that starts no earlier than what the last prune left weighs its increments. -/
theorem Exact.sumAfter {log : Log} (exact : r.Exact log) {id : String} {data : RateLimiterData}
    (holds : log.Holds r id data) {t width : Int} (latest : log.Latest id t)
    (kept : ∀ last, log.pruned id = some last → last - r.dayWindowMs ≤ t - width) :
    RateLimitEntry.gauge.sumAfter (t - width) data.entries =
      admitted log.history id (t - width) t := by
  have past : ∀ a ∈ historyOf log.history id, Increment.gauge.time a ≤ t := by
    intro a mem
    obtain ⟨recorded, own⟩ := List.mem_filter.mp mem
    exact latest a recorded (of_decide_eq_true own)
  rw [admitted_eq, Gauge.windowSum_eq_sumAfter _ past]
  cases pruned : log.pruned id with
  | none =>
    have faithful := exact.faithful holds (t := t - width + r.dayWindowMs)
      fun last some => by rw [pruned] at some; cases some
    exact faithful.represents _ (by omega)
  | some last =>
    have faithful := exact.faithful holds (t := last)
      fun other some => (Option.some.inj (pruned.symm.trans some)).symm.le
    exact faithful.represents _ (kept last pruned)

theorem Exact.chronological {log : Log} (exact : r.Exact log) {id : String}
    {data : RateLimiterData} (holds : log.Holds r id data) :
    RateLimitEntry.gauge.Chronological data.entries :=
  (exact.faithful holds (exact.current id le_rfl)).chronological

/-- A prune takes no entry that a later query counts. -/
theorem sumAfter_prune (data : RateLimiterData) {p t width : Int} (later : p ≤ t)
    (nested : width ≤ r.dayWindowMs) :
    RateLimitEntry.gauge.sumAfter (t - width) (r.prune data p).entries =
      RateLimitEntry.gauge.sumAfter (t - width) data.entries :=
  Gauge.sumAfter_prune _ data.entries (by omega)

theorem expired_of_removed {data : RateLimiterData} {entry : RateLimitEntry} {p t width : Int}
    (later : p ≤ t) (nested : width ≤ r.dayWindowMs) (present : entry ∈ data.entries)
    (removed : entry ∉ (r.prune data p).entries) : entry.timestamp ≤ t - width := by
  by_contra counted
  refine removed (List.mem_filter.mpr ⟨present, ?_⟩)
  simp only [decide_eq_true_eq]
  omega

/-- What the counters of a key tell about its increments. -/
structure Counted (r : RateLimiter) (log : Log) (id : String) (data : RateLimiterData) : Prop where
  rpm : ∀ t, log.Latest id t → log.Current id t →
    calculateRpm data t r.windowSizeMs = admitted log.history id (t - r.windowSizeMs) t
  rpd : ∀ t, log.Latest id t → log.Current id t →
    calculateRpd data t r.dayWindowMs = admitted log.history id (t - r.dayWindowMs) t
  /-- The shorter window may be asked for earlier than the last prune. -/
  rpm_before : ∀ t, log.Latest id t →
    (∀ last, log.pruned id = some last → last - r.dayWindowMs ≤ t - r.windowSizeMs) →
      calculateRpm data t r.windowSizeMs = admitted log.history id (t - r.windowSizeMs) t
  removed : ∀ p t, p ≤ t → ∀ entry ∈ data.entries, entry ∉ (r.prune data p).entries →
    entry.timestamp ≤ t - r.windowSizeMs ∧ entry.timestamp ≤ t - r.dayWindowMs
  unchanged : ∀ p t, p ≤ t →
    calculateRpm (r.prune data p) t r.windowSizeMs = calculateRpm data t r.windowSizeMs ∧
      calculateRpd (r.prune data p) t r.dayWindowMs = calculateRpd data t r.dayWindowMs

theorem Exact.counted {log : Log} (exact : r.Exact log) (nested : r.windowSizeMs ≤ r.dayWindowMs)
    {id : String} {data : RateLimiterData} (holds : log.Holds r id data) :
    r.Counted log id data := by
  have sorted := exact.chronological holds
  have rpm_before : ∀ t, log.Latest id t →
      (∀ last, log.pruned id = some last → last - r.dayWindowMs ≤ t - r.windowSizeMs) →
        calculateRpm data t r.windowSizeMs = admitted log.history id (t - r.windowSizeMs) t :=
    fun t latest kept => (calculateRpm_eq sorted).trans (exact.sumAfter holds latest kept)
  refine
    { rpm := fun t latest current => rpm_before t latest fun last pruned => ?_
      rpd := fun t latest current => exact.sumAfter holds latest fun last pruned => ?_
      rpm_before := rpm_before
      removed := fun p t later entry present removed =>
        ⟨expired_of_removed later nested present removed,
          expired_of_removed later le_rfl present removed⟩
      unchanged := fun p t later => ⟨?_, sumAfter_prune data later le_rfl⟩ }
  · have before := current last pruned
    omega
  · have before := current last pruned
    omega
  · rw [calculateRpm_eq sorted, calculateRpm_eq (sorted.prune _)]
    exact sumAfter_prune data later nested

variable (r)

/-- In every run, both counts of every list are those of the increments recorded, from the last
increment and the last prune of the key on. -/
theorem full_counts (nested : r.windowSizeMs ≤ r.dayWindowMs) (clock : Int) (events : List Event)
    (onTime : Transition.Guarded r.record OnTime (.start clock) events) :
    ∀ log ∈ Transition.reached r.record (.start clock) events, ∀ id data,
      log.Holds r id data → r.Counted log id data := by
  intro log reached id data holds
  have exact := Transition.invariant_of_guarded Exact.record (.start clock) onTime log reached
  exact exact.counted nested holds

/-- Two increments of one millisecond and one after a reload. -/
def reloadedEvents : List Event :=
  [.increment (some "k") 5 0, .increment (some "k") 5 0, .read (some "k") 7, .clearMemoryCache,
    .increment (some "k") 5 9]

theorem full_counts_reloaded :
    (create {}).Counted (reloadedEvents.foldl (create {}).record (.start 0)) "k"
      ((create {}).load (reloadedEvents.foldl (create {}).record (.start 0)).store "k") :=
  (create {}).full_counts (by decide) 0 reloadedEvents
    ⟨le_rfl, le_rfl, (by decide : (0 : Int) ≤ 7), trivial, (by decide : (7 : Int) ≤ 9), trivial⟩
    _ (Transition.foldl_mem_reached _ _ _) "k" _ (Or.inr rfl)

/-- A prune after a day leaves nothing for a query as old as the increment. -/
theorem query_before_prune :
    let events : List Event := [.increment (some "k") 5 0, .read (some "k") 86400000]
    let log := events.foldl (create {}).record (.start 0)
    Transition.Guarded (create {}).record OnTime (.start 0) events ∧
      (create {}).windowSizeMs ≤ (create {}).dayWindowMs ∧ log.Latest "k" 0 ∧
        calculateRpd ((create {}).load log.store "k") 0 (create {}).dayWindowMs = 0 ∧
          admitted log.history "k" (0 - (create {}).dayWindowMs) 0 = 1 :=
  ⟨⟨le_rfl, (by decide : (0 : Int) ≤ 86400000), trivial⟩, by decide, by
    rintro a mem -
    rw [List.mem_singleton.mp mem], by decide, by decide⟩

end KeyCollective.RateLimiter
