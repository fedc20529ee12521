import KeyCollective.Lib.Transition
import KeyCollective.Limiter.RateLimiter
import Mathlib.Data.Nat.Cast.Basic

/-!
# Safety of the sliding windows

A run of check-then-increment steps, with cache evictions between them, and the
history of the increments it admitted. The counters of a key weigh what its
admitted history does from the day cut-off on, whether they are read from the
cache or from storage.
-/

namespace KeyCollective.RateLimiter

open SlidingWindow

/-- An increment a check admitted. -/
structure Increment where
  keyId : String
  timestamp : Int
deriving DecidableEq, Repr

def Increment.gauge : Gauge Increment Int Nat := ⟨timestamp, fun _ => 1⟩

/-- The admitted increments of a key with a timestamp in `(lo, hi]`. -/
def admitted (history : List Increment) (keyId : String) (lo hi : Int) : Nat :=
  (history.filter fun a => a.keyId = keyId ∧ lo < a.timestamp ∧ a.timestamp ≤ hi).length

inductive Check where
  | detailed
  | sync
deriving DecidableEq, Repr

inductive Step where
  /-- Check at `checkedAt` and, when allowed, increment at `incrementedAt`. -/
  | request (check : Check) (keyId : Option String) (checkCost incrementCost : Int)
      (checkedAt incrementedAt : Int)
  /-- Any of the reading methods. -/
  | read (keyId : Option String) (now : Int)
  | clearMemoryCache
deriving DecidableEq, Repr

structure Run where
  store : Store
  clock : Int
  history : List Increment

def Run.start (clock : Int) : Run := ⟨.empty, clock, []⟩

variable (r : RateLimiter)

def check (c : Check) (s : Store) (keyId : Option String) (cost now : Int) : Bool × Store :=
  match c with
  | .detailed => r.checkLimit s keyId cost now
  | .sync => r.checkLimitSync s keyId cost now

def step (run : Run) : Step → Run
  | .request c keyId checkCost incrementCost checkedAt incrementedAt =>
    let (allowed, store) := r.check c run.store keyId checkCost checkedAt
    if allowed then
      { store := r.increment store keyId incrementCost incrementedAt
        clock := incrementedAt
        history := run.history ++ [⟨r.resolveKeyId keyId, incrementedAt⟩] }
    else { run with store, clock := checkedAt }
  | .read keyId now => { run with store := (r.getData run.store keyId now).2, clock := now }
  | .clearMemoryCache => { run with store := clearMemoryCache run.store }

/-- The clock does not run backwards. -/
def Ordered (run : Run) : Step → Prop
  | .request _ _ _ _ checkedAt incrementedAt =>
    run.clock ≤ checkedAt ∧ checkedAt ≤ incrementedAt
  | .read _ now => run.clock ≤ now
  | .clearMemoryCache => True

/-- A synchronous check runs on a key whose counters are in memory. -/
def Loaded (run : Run) : Step → Prop
  | .request .sync keyId _ _ _ _ => (run.store.cache (r.resolveKeyId keyId)).isSome
  | _ => True

def Step.keyId : Step → Option String
  | .request _ keyId _ _ _ _ => some (r.resolveKeyId keyId)
  | .read keyId _ => some (r.resolveKeyId keyId)
  | .clearMemoryCache => none

/-! ## Counters and history -/

def historyOf (history : List Increment) (keyId : String) : List Increment :=
  history.filter fun a => a.keyId = keyId

theorem admitted_eq (history : List Increment) (keyId : String) (lo hi : Int) :
    admitted history keyId lo hi = Increment.gauge.windowSum lo hi (historyOf history keyId) := by
  simp only [admitted, Gauge.windowSum, Gauge.total, historyOf, Increment.gauge,
    List.filter_filter, List.map_const', List.sum_replicate, nsmul_eq_mul, Nat.cast_id, mul_one]
  congr 1
  refine List.filter_congr fun a _ => ?_
  rw [Bool.and_comm]
  exact Bool.decide_and _ _

theorem historyOf_snoc_self (history : List Increment) (keyId : String) (now : Int) :
    historyOf (history ++ [⟨keyId, now⟩]) keyId = historyOf history keyId ++ [⟨keyId, now⟩] := by
  simp [historyOf]

theorem historyOf_snoc_of_ne (history : List Increment) {keyId other : String} (now : Int)
    (h : other ≠ keyId) :
    historyOf (history ++ [⟨keyId, now⟩]) other = historyOf history other := by
  simp [historyOf, Ne.symm h]

theorem historyOf_snoc (history : List Increment) (keyId id : String) (now : Int) :
    historyOf (history ++ [⟨keyId, now⟩]) id =
      historyOf history id ++ if keyId = id then [⟨keyId, now⟩] else [] := by
  by_cases same : keyId = id
  · simp [historyOf, same]
  · simp [historyOf, same]

/-- The counters hold what was admitted since the day cut-off, in order. -/
structure Faithful (clock : Int) (data : RateLimiterData) (history : List Increment) : Prop where
  chronological : RateLimitEntry.gauge.Chronological data.entries
  past : ∀ entry ∈ data.entries, entry.timestamp ≤ clock
  represents : Gauge.Represents RateLimitEntry.gauge Increment.gauge (clock - r.dayWindowMs)
    data.entries history

variable {r}

theorem Faithful.default (clock : Int) : r.Faithful clock createDefaultRateLimiterData [] :=
  ⟨List.Pairwise.nil, fun _ absent => absurd absent List.not_mem_nil, fun _ _ => rfl⟩

theorem Faithful.later {clock now : Int} {data : RateLimiterData} {history : List Increment}
    (faithful : r.Faithful clock data history) (le : clock ≤ now) :
    r.Faithful now data history where
  chronological := faithful.chronological
  past entry mem := (faithful.past entry mem).trans le
  represents := faithful.represents.later (by omega)

theorem Faithful.prune {now : Int} {data : RateLimiterData} {history : List Increment}
    (faithful : r.Faithful now data history) : r.Faithful now (r.prune data now) history where
  chronological := faithful.chronological.prune _
  past entry mem := faithful.past entry (List.mem_filter.mp mem).1
  represents := faithful.represents.prune

/-- Merged or appended, a counted request is one more record at `now`. -/
theorem countRequest_cases (entries : List RateLimitEntry) (now cost : Int) :
    countRequest entries now cost = entries ++ [⟨now, 1, cost⟩] ∨
    ∃ older last, entries = older ++ [last] ∧ last.timestamp = now ∧
      countRequest entries now cost =
        older ++ [⟨now, last.count + 1, last.costMicrodollars + cost⟩] := by
  unfold countRequest
  cases newest : entries.getLast? with
  | none => exact Or.inl rfl
  | some last =>
    obtain ⟨older, rfl⟩ := List.getLast?_eq_some_iff.mp newest
    by_cases same : last.timestamp = now
    · refine Or.inr ⟨older, last, rfl, same, ?_⟩
      simp [same]
    · exact Or.inl (by simp [same])

theorem Faithful.count {now cost total : Int} {data : RateLimiterData} {last : Option Int}
    {history : List Increment} (faithful : r.Faithful now data history) (keyId : String) :
    r.Faithful now ⟨countRequest data.entries now cost, total, last⟩
      (history ++ [⟨keyId, now⟩]) := by
  have appended := faithful.represents.snoc (e := ⟨now, 1, cost⟩) (x := ⟨keyId, now⟩) rfl rfl
  have sorted := faithful.chronological.snoc (e := ⟨now, 1, cost⟩) faithful.past
  rcases countRequest_cases data.entries now cost with eq | ⟨older, newest, split, same, eq⟩
  · rw [eq]
    refine ⟨sorted, fun entry mem => ?_, appended⟩
    rcases List.mem_append.mp mem with mem | mem
    · exact faithful.past entry mem
    · rw [List.mem_singleton.mp mem]
  · rw [eq]
    rw [split, List.append_assoc] at appended
    have before : RateLimitEntry.gauge.Chronological older :=
      faithful.chronological.sublist (split ▸ List.sublist_append_left older [newest])
    have past : ∀ entry ∈ older, entry.timestamp ≤ now := fun entry mem =>
      faithful.past entry (split ▸ List.mem_append_left _ mem)
    refine ⟨before.snoc past, fun entry mem => ?_, appended.merge same same.symm rfl⟩
    rcases List.mem_append.mp mem with mem | mem
    · exact past entry mem
    · rw [List.mem_singleton.mp mem]

theorem Faithful.rpm (nested : r.windowSizeMs ≤ r.dayWindowMs) {now : Int}
    {data : RateLimiterData} {history : List Increment} (faithful : r.Faithful now data history) :
    calculateRpm data now r.windowSizeMs =
      Increment.gauge.sumAfter (now - r.windowSizeMs) history := by
  have within : now - r.dayWindowMs ≤ now - r.windowSizeMs := by omega
  rw [calculateRpm_eq faithful.chronological]
  exact faithful.represents _ within

theorem Faithful.rpd {now : Int} {data : RateLimiterData} {history : List Increment}
    (faithful : r.Faithful now data history) :
    calculateRpd data now r.dayWindowMs =
      Increment.gauge.sumAfter (now - r.dayWindowMs) history :=
  faithful.represents _ (le_refl _)

/-- An allowed check leaves room for one more increment in both windows. -/
theorem Faithful.room (nested : r.windowSizeMs ≤ r.dayWindowMs) {now cost : Int}
    {data : RateLimiterData} {history : List Increment} (faithful : r.Faithful now data history)
    (allowed : (r.evaluate data now cost).allowed = true) :
    Increment.gauge.sumAfter (now - r.windowSizeMs) history < r.rpmLimit ∧
    Increment.gauge.sumAfter (now - r.dayWindowMs) history < r.rpdLimit := by
  obtain ⟨rpm, rpd, -⟩ := (r.evaluate_allowed_iff data now cost).mp allowed
  rw [faithful.rpm nested] at rpm
  rw [faithful.rpd] at rpd
  exact ⟨rpm, rpd⟩

/-! ## The invariant of a run -/

variable (r)

/-- Every key's counters, cached or stored, hold its history. -/
def Tracks (clock : Int) (s : Store) (history : List Increment) : Prop :=
  CachedStore.Everywhere r.getStorageKey createDefaultRateLimiterData
    (fun id data => r.Faithful clock data (historyOf history id)) s

structure Safe (run : Run) : Prop where
  tracks : r.Tracks run.clock run.store run.history
  rpm : ∀ id, Increment.gauge.Bounded r.windowSizeMs r.rpmLimit (historyOf run.history id)
  rpd : ∀ id, Increment.gauge.Bounded r.dayWindowMs r.rpdLimit (historyOf run.history id)

variable {r}

theorem Tracks.empty (clock : Int) : r.Tracks clock .empty [] :=
  CachedStore.Everywhere.empty fun _ => .default clock

theorem Tracks.later {clock now : Int} {s : Store} {history : List Increment}
    (tracks : r.Tracks clock s history) (le : clock ≤ now) : r.Tracks now s history :=
  tracks.imp fun _ _ faithful => faithful.later le

theorem Tracks.view {now : Int} {s : Store} {history : List Increment}
    (tracks : r.Tracks now s history) (id : String) :
    r.Faithful now (r.view s id now) (historyOf history id) :=
  (tracks id).2.prune

theorem Tracks.read {now : Int} {s : Store} {history : List Increment}
    (tracks : r.Tracks now s history) (keyId : Option String) :
    r.Tracks now (r.getData s keyId now).2 history :=
  tracks.setCache (tracks.view _)

theorem Tracks.evict {now : Int} {s : Store} {history : List Increment}
    (tracks : r.Tracks now s history) : r.Tracks now s.evict history :=
  CachedStore.Everywhere.evict tracks

theorem Tracks.increment {now : Int} {s : Store} {history : List Increment}
    (tracks : r.Tracks now s history) (keyId : Option String) (cost : Int) :
    r.Tracks now (r.increment s keyId cost now) (history ++ [⟨r.resolveKeyId keyId, now⟩]) := by
  have read := tracks.read (some (r.resolveKeyId keyId))
  refine read.save r.getStorageKey_injective ?_ fun other data ne faithful => ?_
  · rw [historyOf_snoc_self]
    exact ((tracks.view _).count _).prune
  · rwa [historyOf_snoc_of_ne _ _ ne]

theorem Safe.start (clock : Int) : r.Safe (.start clock) where
  tracks := .empty clock
  rpm _ := Gauge.Bounded.nil _ _
  rpd _ := Gauge.Bounded.nil _ _

theorem Safe.later {run : Run} {now : Int} (safe : r.Safe run) (le : run.clock ≤ now) :
    r.Safe { run with clock := now } where
  tracks := safe.tracks.later le
  rpm := safe.rpm
  rpd := safe.rpd

theorem Safe.read {run : Run} (safe : r.Safe run) (keyId : Option String) :
    r.Safe { run with store := (r.getData run.store keyId run.clock).2 } where
  tracks := safe.tracks.read keyId
  rpm := safe.rpm
  rpd := safe.rpd

/-- One more increment keeps every window of every key bounded when its key has room. -/
theorem bounded_snoc {width : Int} {limit : Nat} {history : List Increment} {keyId : String}
    {now : Int} (bounded : ∀ id, Increment.gauge.Bounded width limit (historyOf history id))
    (room : Increment.gauge.sumAfter (now - width) (historyOf history keyId) < limit) :
    ∀ id, Increment.gauge.Bounded width limit
      (historyOf (history ++ [⟨keyId, now⟩]) id) := by
  intro id
  by_cases same : id = keyId
  · subst same
    rw [historyOf_snoc_self]
    exact (bounded id).snoc room
  · rw [historyOf_snoc_of_ne _ _ same]
    exact bounded id

/-- Incrementing at the run's clock keeps it safe when the key has room then. -/
theorem Safe.increment {run : Run} (safe : r.Safe run) (keyId : Option String) (cost : Int)
    (rpm : Increment.gauge.sumAfter (run.clock - r.windowSizeMs)
      (historyOf run.history (r.resolveKeyId keyId)) < r.rpmLimit)
    (rpd : Increment.gauge.sumAfter (run.clock - r.dayWindowMs)
      (historyOf run.history (r.resolveKeyId keyId)) < r.rpdLimit) :
    r.Safe
      { store := r.increment run.store keyId cost run.clock
        clock := run.clock
        history := run.history ++ [⟨r.resolveKeyId keyId, run.clock⟩] } where
  tracks := safe.tracks.increment keyId cost
  rpm := bounded_snoc safe.rpm rpm
  rpd := bounded_snoc safe.rpd rpd

theorem check_eq {run : Run} {c : Check} {keyId : Option String} {checkCost incrementCost : Int}
    {checkedAt incrementedAt : Int}
    (loaded : r.Loaded run (.request c keyId checkCost incrementCost checkedAt incrementedAt)) :
    r.check c run.store keyId checkCost checkedAt =
      r.checkLimit run.store keyId checkCost checkedAt := by
  cases c with
  | detailed => rfl
  | sync => exact r.checkLimitSync_loaded _ _ _ _ loaded

theorem step_safe (nested : r.windowSizeMs ≤ r.dayWindowMs) (run : Run) (step : Step)
    (safe : r.Safe run) (ok : Ordered run step ∧ r.Loaded run step) :
    r.Safe (r.step run step) := by
  cases step with
  | request c keyId checkCost incrementCost checkedAt incrementedAt =>
    obtain ⟨⟨le, le'⟩, loaded⟩ := ok
    have checked := (safe.later le).read keyId
    simp only [RateLimiter.step, check_eq loaded, checkLimit, checkLimitDetailed]
    split
    · rename_i allowed
      obtain ⟨rpm, rpd⟩ := ((safe.later le).tracks.view _).room nested allowed
      refine (checked.later le').increment keyId incrementCost ?_ ?_
      · exact (Gauge.sumAfter_antitone _ (sub_le_sub_right le' _)).trans_lt rpm
      · exact (Gauge.sumAfter_antitone _ (sub_le_sub_right le' _)).trans_lt rpd
    · exact checked
  | read keyId now => exact (safe.later ok.1).read keyId
  | clearMemoryCache => exact ⟨safe.tracks.evict, safe.rpm, safe.rpd⟩

/-! ## Other keys -/

variable (r)

theorem step_agreeAt (run : Run) (step : Step) {id other : String} (on : step.keyId r = some id)
    (h : other ≠ id) :
    CachedStore.AgreeAt r.getStorageKey other (r.step run step).store run.store := by
  cases step with
  | request c keyId checkCost incrementCost checkedAt incrementedAt =>
    obtain rfl : r.resolveKeyId keyId = id := Option.some.inj on
    have checked : CachedStore.AgreeAt r.getStorageKey other
        (r.check c run.store keyId checkCost checkedAt).2 run.store := by
      cases c with
      | detailed => exact r.getData_agreeAt run.store keyId checkedAt h
      | sync => exact r.getDataSync_agreeAt run.store keyId checkedAt h
    simp only [RateLimiter.step]
    split
    · exact (r.increment_agreeAt _ keyId incrementCost incrementedAt h).trans checked
    · exact checked
  | read keyId now =>
    obtain rfl : r.resolveKeyId keyId = id := Option.some.inj on
    exact r.getData_agreeAt run.store keyId now h
  | clearMemoryCache => simp [Step.keyId] at on

theorem check_congr (c : Check) {s t : Store} {id : String} (cost now : Int)
    (agree : CachedStore.AgreeAt r.getStorageKey id s t) :
    (r.check c s (some id) cost now).1 = (r.check c t (some id) cost now).1 := by
  cases c with
  | detailed =>
    simp only [check, checkLimit, checkLimitDetailed, getData, view, load, resolveKeyId_some,
      agree.load]
  | sync =>
    simp only [check, checkLimitSync, getDataSync, resolveKeyId_some, agree.1]
    cases t.cache id <;> rfl

/-- In every run of checked increments, on counters loaded before a synchronous
check reads them, no window of either length ever admits more than its limit.
A step on one key never changes what a check decides for another. -/
theorem sliding_window_safety (nested : r.windowSizeMs ≤ r.dayWindowMs) :
    (∀ clock steps,
      Transition.Guarded r.step (fun run step => Ordered run step ∧ r.Loaded run step)
        (.start clock) steps →
      ∀ run ∈ Transition.reached r.step (.start clock) steps, ∀ keyId t,
        admitted run.history keyId (t - r.windowSizeMs) t ≤ r.rpmLimit ∧
        admitted run.history keyId (t - r.dayWindowMs) t ≤ r.rpdLimit) ∧
    (∀ run step keyId other, step.keyId r = some keyId → other ≠ keyId → ∀ c cost now,
      (r.check c (r.step run step).store (some other) cost now).1 =
        (r.check c run.store (some other) cost now).1) := by
  refine ⟨fun clock steps guarded run reached keyId t => ?_,
    fun run step keyId other on h c cost now => ?_⟩
  · have safe :=
      Transition.invariant_of_guarded (step_safe nested) (.start clock) guarded run reached
    rw [admitted_eq, admitted_eq]
    exact ⟨safe.rpm keyId t, safe.rpd keyId t⟩
  · exact r.check_congr c cost now (r.step_agreeAt run step on h)

/-- The default limiter, checked on one key and then another. -/
theorem sliding_window_safety_default :
    admitted ([.request .detailed (some "k1") 0 5 1 2, .clearMemoryCache,
      .request .detailed (some "k2") 0 5 3 3].foldl (create {}).step (.start 0)).history
      "k1" (3 - 60000) 3 ≤ 60 :=
  (((create {}).sliding_window_safety (by decide)).1 0
    [.request .detailed (some "k1") 0 5 1 2, .clearMemoryCache,
      .request .detailed (some "k2") 0 5 3 3]
    ⟨⟨by simp [Ordered, Run.start], trivial⟩, ⟨trivial, trivial⟩,
      ⟨by simp [Ordered]; decide, trivial⟩, trivial⟩
    _ (Transition.foldl_mem_reached _ _ _) "k1" 3).1

/-- After an eviction a synchronous check knows nothing of the counters in storage:
with a limit of one request a minute, two are admitted within two milliseconds. -/
theorem sync_check_after_eviction :
    (create { rpmLimit := some 1 }).windowSizeMs ≤ (create { rpmLimit := some 1 }).dayWindowMs ∧
    ∃ steps, Transition.Guarded (create { rpmLimit := some 1 }).step Ordered (.start 0) steps ∧
      ∃ run ∈ Transition.reached (create { rpmLimit := some 1 }).step (.start 0) steps,
        admitted run.history "k" (1 - (create { rpmLimit := some 1 }).windowSizeMs) 1 = 2 :=
  ⟨by decide,
    [.request .sync (some "k") 0 0 0 0, .clearMemoryCache, .request .sync (some "k") 0 0 1 1],
    ⟨⟨by decide, by decide⟩, trivial, ⟨by decide, by decide⟩, trivial⟩, by decide⟩

end KeyCollective.RateLimiter
