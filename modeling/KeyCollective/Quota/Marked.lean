import KeyCollective.Quota.Admission

/-!
# Marked admissions

Beside a run of a tenant's object, a log of the admissions that are marked: those of a
standing, or those of a token. The counters may be reset, and the log is not. While every
admission of the last `width` is one the object accounts for, a window of the log holds no
more than the limits its admissions were evaluated with.
-/

namespace KeyCollective.Quota.TenantQuotaDO

open SlidingWindow

/-- A call, or a reset of the counters. -/
inductive Call where
  | op (op : Op)
  | reset (loadedAt persistedAt : Int)

/-- A run since the last reset, and the marked admissions since the start. -/
structure Watched where
  run : Run
  log : List QuotaEntry

variable (q : TenantQuotaDO)

/-- What an operation is granted. -/
def grants (run : Run) : Op → List QuotaEntry
  | .consumeQuota request loadedAt now persistedAt =>
    granted request now (q.consumeQuota run.state request loadedAt now persistedAt).1
  | _ => []

def watchFrom (clock : Int) : Watched := ⟨q.start clock, []⟩

def watch (marked : Bool) (w : Watched) : Call → Watched
  | .op op =>
    { run := q.step w.run op, log := if marked then w.log ++ q.grants w.run op else w.log }
  | .reset loadedAt persistedAt =>
    { w with
      run :=
        { state := q.reset w.run.state loadedAt persistedAt, clock := persistedAt, history := [] } }

def OrderedCall (w : Watched) : Call → Prop
  | .op op => Ordered w.run op
  | .reset loadedAt persistedAt => w.run.clock ≤ loadedAt ∧ loadedAt ≤ persistedAt

/-- A reset finds no marked admission of the last `width`. -/
def Undisturbed (width : Int) (w : Watched) : Call → Prop
  | .op _ => True
  | .reset _ persistedAt => ∀ e ∈ w.log, e.timestamp ≤ persistedAt - width

/-- The tier a request is evaluated on. -/
def evaluatedTier (s : State) (request : ConsumeQuotaRequest) (loadedAt : Int) : UserTier :=
  request.tier.getD (q.ensureLoaded s loadedAt).tier

/-! ## What is granted -/

theorem step_history (run : Run) (op : Op) :
    (q.step run op).history = run.history ++ q.grants run op := by
  cases op with
  | consumeQuota request loadedAt now persistedAt => rfl
  | _ => exact (List.append_nil _).symm

@[simp] theorem watch_unmarked_log (w : Watched) (call : Call) :
    (q.watch false w call).log = w.log := by
  cases call with
  | op op => rfl
  | reset loadedAt persistedAt => rfl

theorem step_clock {run : Run} {op : Op} (ordered : Ordered run op) :
    run.clock ≤ (q.step run op).clock := by
  cases op with
  | consumeQuota request loadedAt now persistedAt =>
    exact ordered.1.trans (ordered.2.1.trans ordered.2.2)
  | accrueDebt cuWeight loadedAt persistedAt => exact ordered.1.trans ordered.2
  | decrementDebt cuWeight loadedAt persistedAt => exact ordered.1.trans ordered.2
  | alarm loadedAt persistedAt => exact ordered.1.trans ordered.2
  | setTier tier loadedAt persistedAt => exact ordered.1.trans ordered.2
  | read now => exact ordered
  | clearMemoryCache => exact le_rfl
  | restart => exact le_rfl

variable {q}

/-- The whole tenant's usage of a window that ends now. -/
theorem Books.consumed_eq {now lo : Int} {s : State} {history : List QuotaEntry}
    (books : q.Books now s history) :
    consumed history none lo now = QuotaEntry.gauge.sumAfter lo history := by
  apply Gauge.total_congr
  intro e mem
  have past := books.past e mem
  rw [decide_eq_decide]
  simp [past, inScope, truthyProject, QuotaEntry.gauge]

/-- An admission is made within the limits of the tier it is evaluated on. -/
theorem Books.grants_room {run : Run} {op : Op}
    (books : q.Books run.clock run.state run.history) (ordered : Ordered run op)
    (nested : q.rpmWindowMs ≤ q.rpdWindowMs) {e : QuotaEntry} (granted : e ∈ q.grants run op) :
    ∃ request loadedAt now persistedAt, op = .consumeQuota request loadedAt now persistedAt ∧
      q.grants run op = [e] ∧ run.clock ≤ e.timestamp ∧
      ((QuotaEntry.gauge.sumAfter (e.timestamp - q.rpmWindowMs) run.history + e.count : Nat) : Int) ≤
        (getTierLimits (q.evaluatedTier run.state request loadedAt)).rpmLimit ∧
      ((QuotaEntry.gauge.sumAfter (e.timestamp - q.rpdWindowMs) run.history + e.count : Nat) : Int) ≤
        (getTierLimits (q.evaluatedTier run.state request loadedAt)).rpdLimit ∧
      ∀ id, truthyProject request.projectId = some id →
        ((consumed run.history (some id) (e.timestamp - q.rpmWindowMs) e.timestamp + e.count :
            Nat) : Int) ≤
          calculateProjectQuota (q.evaluatedTier run.state request loadedAt)
            request.projectMaxSubCap := by
  cases op with
  | consumeQuota request loadedAt now persistedAt =>
    obtain ⟨le, le', -⟩ := ordered
    obtain ⟨prepared, loaded⟩ := books.prepared le le'
    have history := q.step_history run (.consumeQuota request loadedAt now persistedAt)
    obtain ⟨_, -, eq⟩ | ⟨_, -, -, eq⟩ | ⟨_, -, -, -, -, passes, eq⟩ :=
      q.step_consumeQuota run request loadedAt now persistedAt
    · rw [eq, List.self_eq_append_right] at history
      rw [history] at granted
      exact absurd granted List.not_mem_nil
    · rw [eq, List.self_eq_append_right] at history
      rw [history] at granted
      exact absurd granted List.not_mem_nil
    · rw [eq, List.append_cancel_left_eq] at history
      rw [← history, List.mem_singleton] at granted
      subst granted
      have rpm := prepared.room loaded nested
        (QuotaErrorCode.passes_of_firstFailure request _ .userQuotaExhausted passes) (by simp)
      have rpd := prepared.room loaded nested
        (QuotaErrorCode.passes_of_firstFailure request _ .userDailyQuotaExhausted passes) (by simp)
      have project (id : String) (truthy : truthyProject request.projectId = some id) :=
        prepared.room loaded nested
          (QuotaErrorCode.passes_of_firstFailure request _ .projectSubCapExceeded passes)
          (fun _ => Option.isSome_iff_exists.mpr ⟨id, truthy⟩)
      simp only [QuotaErrorCode.scope, prepared.consumed_eq] at rpm rpd
      refine ⟨request, loadedAt, now, persistedAt, rfl, history.symm, le.trans le', rpm, rpd, ?_⟩
      intro id truthy
      have named : request.projectId = some id := (Option.filter_eq_some_iff.mp truthy).1
      have room := project id truthy
      simp only [QuotaErrorCode.scope, named] at room
      exact room
  | _ => exact absurd granted List.not_mem_nil

/-! ## The log -/

/-- The object accounts for the marked admissions of the last `width`. -/
structure Watch (q : TenantQuotaDO) (width : Int) (w : Watched) : Prop where
  books : q.Books w.run.clock w.run.state w.run.history
  recent : (w.log.filter fun e => w.run.clock - width < e.timestamp).Sublist w.run.history

theorem Watch.start (width clock : Int) : q.Watch width (q.watchFrom clock) :=
  ⟨q.start_books clock, List.nil_sublist _⟩

theorem Books.reset {clock loadedAt persistedAt : Int} {s : State} {history : List QuotaEntry}
    (books : q.Books clock s history) (le : clock ≤ loadedAt) :
    q.Books persistedAt (q.reset s loadedAt persistedAt) [] := by
  have loaded := (books.later le).ensureLoaded.2
  constructor
  · exact fun _ absent => absurd absent List.not_mem_nil
  · intro _
    exact .nil persistedAt
  · intro unloaded
    have still : (q.ensureLoaded s loadedAt).isLoaded = false := unloaded
    rw [loaded] at still
    cases still
  · intro data stored
    cases stored
    exact .nil persistedAt
  · intro missing
    cases missing

theorem Watch.step {width : Int} {w : Watched} (watch : q.Watch width w) (marked : Bool)
    {call : Call} (ordered : OrderedCall w call) (undisturbed : Undisturbed width w call) :
    q.Watch width (q.watch marked w call) := by
  cases call with
  | op op =>
    have clock := q.step_clock ordered
    have kept : (w.log.filter fun e => (q.step w.run op).clock - width < e.timestamp).Sublist
        w.run.history := by
      refine List.Sublist.trans (List.monotone_filter_right w.log ?_) watch.recent
      intro e late
      simp only [decide_eq_true_eq] at late ⊢
      omega
    refine ⟨q.step_books w.run op watch.books ordered, ?_⟩
    simp only [TenantQuotaDO.watch, q.step_history]
    cases marked with
    | false => exact kept.trans (List.sublist_append_left _ _)
    | true =>
      rw [if_pos rfl, List.filter_append]
      exact kept.append List.filter_sublist
  | reset loadedAt persistedAt =>
    refine ⟨watch.books.reset ordered.1, ?_⟩
    apply List.sublist_nil.mpr
    apply List.filter_eq_nil_iff.mpr
    intro e mem late
    have old : e.timestamp ≤ persistedAt - width := undisturbed e mem
    exact absurd (of_decide_eq_true late) (not_lt.mpr old)

/-- What the log holds of a late window is no more than what the object accounts for. -/
theorem Watch.sumAfter_le {width cutoff : Int} {w : Watched} (watch : q.Watch width w)
    (late : w.run.clock - width ≤ cutoff) :
    QuotaEntry.gauge.sumAfter cutoff w.log ≤ QuotaEntry.gauge.sumAfter cutoff w.run.history := by
  rw [← QuotaEntry.gauge.sumAfter_prune w.log late]
  exact QuotaEntry.gauge.total_sublist _ watch.recent

/-- Where the marked admissions of a late window all name a project, it is no more than what
the object accounts for of the project. -/
theorem Watch.sumAfter_le_project {width cutoff now : Int} {w : Watched}
    (watch : q.Watch width w) (late : w.run.clock - width ≤ cutoff) (le : w.run.clock ≤ now)
    {id : String} (named : id ≠ "")
    (inProject : ∀ e ∈ w.log, cutoff < e.timestamp → e.projectId = some id) :
    QuotaEntry.gauge.sumAfter cutoff w.log ≤ consumed w.run.history (some id) cutoff now := by
  rw [← QuotaEntry.gauge.sumAfter_prune w.log late]
  refine le_trans (QuotaEntry.gauge.total_le ?_)
    (QuotaEntry.gauge.total_sublist _ watch.recent)
  intro e mem after
  have past := watch.books.past e (watch.recent.mem mem)
  have after : cutoff < e.timestamp := of_decide_eq_true after
  have own := inProject e (List.mem_filter.mp mem).1 after
  have scope : inScope (some id) e = true := by
    simp [inScope, truthyProject, Option.filter, named, own]
  exact decide_eq_true ⟨⟨after, past.trans le⟩, scope⟩

/-- While the marked admissions find room, every window of the log stays bounded. -/
theorem Books.bounded_watch {narrow : Int} {limit : Nat} {w : Watched}
    (books : q.Books w.run.clock w.run.state w.run.history)
    (nested : q.rpmWindowMs ≤ q.rpdWindowMs) {marked : Bool} {call : Call}
    (ordered : OrderedCall w call) (bounded : QuotaEntry.gauge.Bounded narrow limit w.log)
    (room : marked = true → ∀ op, call = .op op → ∀ e ∈ q.grants w.run op,
      QuotaEntry.gauge.sumAfter (e.timestamp - narrow) w.log + e.count ≤ limit) :
    QuotaEntry.gauge.Bounded narrow limit (q.watch marked w call).log := by
  cases call with
  | reset loadedAt persistedAt => exact bounded
  | op op =>
    cases marked with
    | false => exact bounded
    | true =>
      have log : (q.watch true w (.op op)).log = w.log ++ q.grants w.run op := rfl
      rw [log]
      cases grants : q.grants w.run op with
      | nil => rwa [List.append_nil]
      | cons e rest =>
        have mem : e ∈ q.grants w.run op := grants ▸ List.mem_cons_self
        obtain ⟨-, -, -, -, -, single, -⟩ := books.grants_room ordered nested mem
        rw [grants, List.cons.injEq] at single
        obtain ⟨-, rfl⟩ := single
        exact bounded.snoc (room rfl op rfl e mem)

end KeyCollective.Quota.TenantQuotaDO
