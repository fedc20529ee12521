import KeyCollective.Quota.TenantQuota

/-!
# Admission safety

A run of calls to a tenant's object beside the history of what it granted. What
the object holds, in memory or in storage, is the day's part of that history and
the cost of all of it.
-/

namespace KeyCollective.Quota.TenantQuotaDO

open SlidingWindow

inductive Op where
  | consumeQuota (request : ConsumeQuotaRequest) (loadedAt now persistedAt : Int)
  | accrueDebt (cuWeight loadedAt persistedAt : Int)
  | decrementDebt (cuWeight loadedAt persistedAt : Int)
  | alarm (loadedAt persistedAt : Int)
  | setTier (tier : UserTier) (loadedAt persistedAt : Int)
  /-- A health or status request. -/
  | read (now : Int)
  | clearMemoryCache
  /-- The runtime drops the instance and later constructs another one. -/
  | restart

structure Run where
  state : State
  clock : Int
  history : List QuotaEntry

/-- What a call was granted. -/
def granted (request : ConsumeQuotaRequest) (now : Int) :
    Except TenantIsolationError ConsumeQuotaResult → List QuotaEntry
  | .ok result =>
    if result.allowed ∧ ¬request.checkOnly then
      [{ timestamp := now
         count := request.requestedCount
         costMicrodollars := toMicrodollars request.costMicrodollars
         projectId := truthyProject request.projectId }]
    else []
  | .error _ => []

variable (q : TenantQuotaDO)

def start (clock : Int) : Run := ⟨q.instantiate none, clock, []⟩

def step (run : Run) : Op → Run
  | .consumeQuota request loadedAt now persistedAt =>
    let (outcome, state) := q.consumeQuota run.state request loadedAt now persistedAt
    { state, clock := persistedAt, history := run.history ++ granted request now outcome }
  | .accrueDebt cuWeight loadedAt persistedAt =>
    { run with
      state := q.accrueDebt run.state cuWeight loadedAt persistedAt, clock := persistedAt }
  | .decrementDebt cuWeight loadedAt persistedAt =>
    { run with
      state := q.decrementDebt run.state cuWeight loadedAt persistedAt, clock := persistedAt }
  | .alarm loadedAt persistedAt =>
    { run with state := q.alarm run.state loadedAt persistedAt, clock := persistedAt }
  | .setTier tier loadedAt persistedAt =>
    { run with state := q.setTier run.state tier loadedAt persistedAt, clock := persistedAt }
  | .read now => { run with state := q.ensureLoaded run.state now, clock := now }
  | .clearMemoryCache => { run with state := TenantQuotaDO.clearMemoryCache run.state }
  | .restart => { run with state := q.instantiate run.state.storage }

/-- The clock does not run backwards. -/
def Ordered (run : Run) : Op → Prop
  | .consumeQuota _ loadedAt now persistedAt =>
    run.clock ≤ loadedAt ∧ loadedAt ≤ now ∧ now ≤ persistedAt
  | .accrueDebt _ loadedAt persistedAt | .decrementDebt _ loadedAt persistedAt
  | .alarm loadedAt persistedAt | .setTier _ loadedAt persistedAt =>
    run.clock ≤ loadedAt ∧ loadedAt ≤ persistedAt
  | .read now => run.clock ≤ now
  | .clearMemoryCache | .restart => True

/-- The weight granted in `(lo, hi]`, to one project or to the whole tenant. -/
def consumed (history : List QuotaEntry) (projectId : Option String) (lo hi : Int) : Nat :=
  QuotaEntry.gauge.total
    (fun e => (lo < e.timestamp ∧ e.timestamp ≤ hi) ∧ inScope projectId e) history

/-! ## The invariant -/

/-- Entries and a total that account for a history: the entries are those of the last
day, the total is the cost of all of them. -/
structure Accounts (clock : Int) (entries : List QuotaEntry) (total : Int)
    (history : List QuotaEntry) : Prop where
  retains : QuotaEntry.gauge.Retains (clock - q.rpdWindowMs) entries history
  total : total = (history.map QuotaEntry.costMicrodollars).sum

/-- The state accounts for the history, in memory when loaded, and in storage. -/
structure Books (clock : Int) (s : State) (history : List QuotaEntry) : Prop where
  past : ∀ e ∈ history, e.timestamp ≤ clock
  memory : s.isLoaded = true → q.Accounts clock s.entries s.totalCostMicrodollars history
  unloaded : s.isLoaded = false → s.entries = [] ∧ s.totalCostMicrodollars = 0
  stored : ∀ data, s.storage = some data →
    q.Accounts clock data.entries data.totalCostMicrodollars history
  unstored : s.storage = none → history = []

variable {q}

theorem Accounts.nil (clock : Int) : q.Accounts clock [] 0 [] := ⟨rfl, rfl⟩

theorem Accounts.later {clock now total : Int} {entries history : List QuotaEntry}
    (accounts : q.Accounts clock entries total history) (le : clock ≤ now) :
    q.Accounts now entries total history where
  retains := accounts.retains.later (by omega)
  total := accounts.total

theorem Accounts.prune {clock total : Int} {entries history : List QuotaEntry}
    (accounts : q.Accounts clock entries total history) :
    q.Accounts clock (entries.filter fun e => clock - q.rpdWindowMs < e.timestamp) total history
    where
  retains := accounts.retains.prune
  total := accounts.total

theorem Accounts.snoc {clock total : Int} {entries history : List QuotaEntry}
    (accounts : q.Accounts clock entries total history) (e : QuotaEntry) :
    q.Accounts clock (entries ++ [e]) (total + e.costMicrodollars) (history ++ [e]) where
  retains := accounts.retains.snoc e
  total := by simp [accounts.total]

theorem Books.later {clock now : Int} {s : State} {history : List QuotaEntry}
    (books : q.Books clock s history) (le : clock ≤ now) : q.Books now s history where
  past e mem := (books.past e mem).trans le
  memory loaded := (books.memory loaded).later le
  unloaded := books.unloaded
  stored data stored := (books.stored data stored).later le
  unstored := books.unstored

/-- Persisting after an update that keeps the entries and the total writes what memory
accounts for. -/
theorem Books.persist {clock : Int} {s t : State} {history : List QuotaEntry}
    (books : q.Books clock s history) (loaded : s.isLoaded = true)
    (sameLoaded : t.isLoaded = s.isLoaded) (sameEntries : t.entries = s.entries)
    (sameTotal : t.totalCostMicrodollars = s.totalCostMicrodollars) :
    q.Books clock (q.persist t clock) history := by
  have accounts := (books.memory loaded).prune
  rw [← sameEntries, ← sameTotal] at accounts
  constructor
  · exact books.past
  · intro _
    exact accounts
  · intro unloaded
    have still : t.isLoaded = false := unloaded
    rw [sameLoaded, loaded] at still
    cases still
  · intro data stored
    cases stored
    exact accounts
  · intro missing
    cases missing

/-- Memory that is lost leaves the books in storage. -/
theorem Books.emptied {now : Int} {s s' : State} {history : List QuotaEntry}
    (books : q.Books now s history) (unloaded : s'.isLoaded = false)
    (noEntries : s'.entries = []) (noTotal : s'.totalCostMicrodollars = 0)
    (storage : s'.storage = s.storage) : q.Books now s' history := by
  constructor
  · exact books.past
  · intro loaded
    rw [unloaded] at loaded
    cases loaded
  · exact fun _ => ⟨noEntries, noTotal⟩
  · intro data stored
    exact books.stored data (storage ▸ stored)
  · intro missing
    exact books.unstored (storage ▸ missing)

theorem Books.ensureLoaded {now : Int} {s : State} {history : List QuotaEntry}
    (books : q.Books now s history) :
    q.Books now (q.ensureLoaded s now) history ∧ (q.ensureLoaded s now).isLoaded = true := by
  unfold TenantQuotaDO.ensureLoaded
  cases loaded : s.isLoaded with
  | true => exact ⟨books, loaded⟩
  | false =>
    obtain ⟨noEntries, noTotal⟩ := books.unloaded loaded
    have memory : q.Accounts now (readStorage s).entries
        (readStorage s).totalCostMicrodollars history := by
      unfold readStorage
      cases storage : s.storage with
      | some data => exact books.stored data storage
      | none =>
        rw [books.unstored storage, noEntries, noTotal]
        exact .nil now
    have sameStorage := readStorage_storage s
    refine ⟨?_, rfl⟩
    constructor
    · exact books.past
    · exact fun _ => memory.prune
    · intro unloaded
      cases unloaded
    · intro data stored
      exact books.stored data (sameStorage ▸ stored)
    · intro missing
      exact books.unstored (sameStorage ▸ missing)

theorem Books.pruneEntries {now : Int} {s : State} {history : List QuotaEntry}
    (books : q.Books now s history) : q.Books now (q.pruneEntries s now) history where
  past := books.past
  memory loaded := (books.memory loaded).prune
  unloaded still := by
    obtain ⟨noEntries, noTotal⟩ := books.unloaded still
    exact ⟨by simp [TenantQuotaDO.pruneEntries, noEntries], noTotal⟩
  stored := books.stored
  unstored := books.unstored

/-- Take one more entry and persist it. -/
def take (q : TenantQuotaDO) (s : State) (e : QuotaEntry) (persistedAt : Int) : State :=
  q.persist
    { s with
      entries := s.entries ++ [e]
      totalCostMicrodollars := s.totalCostMicrodollars + e.costMicrodollars } persistedAt

theorem Books.take {now persistedAt : Int} {s : State} {history : List QuotaEntry}
    (books : q.Books now s history) (loaded : s.isLoaded = true) (le : now ≤ persistedAt)
    {e : QuotaEntry} (stamped : e.timestamp = now) :
    q.Books persistedAt (q.take s e persistedAt) (history ++ [e]) := by
  have accounts := (((books.memory loaded).snoc e).later le).prune
  constructor
  · intro x mem
    rcases List.mem_append.mp mem with mem | mem
    · exact (books.past x mem).trans le
    · rw [List.mem_singleton.mp mem, stamped]
      exact le
  · intro _
    exact accounts
  · intro unloaded
    have still : s.isLoaded = false := unloaded
    rw [loaded] at still
    cases still
  · intro data stored
    cases stored
    exact accounts
  · intro missing
    cases missing

theorem Books.withDebt {clock loadedAt persistedAt : Int} {s : State}
    {history : List QuotaEntry} (books : q.Books clock s history) (le : clock ≤ loadedAt)
    (le' : loadedAt ≤ persistedAt) (update : DebtState → DebtState) :
    q.Books persistedAt (q.withDebt update s loadedAt persistedAt) history := by
  obtain ⟨loadedBooks, loaded⟩ := (books.later le).ensureLoaded
  exact (loadedBooks.later le').persist loaded rfl rfl rfl

theorem Books.setTier {clock loadedAt persistedAt : Int} {s : State}
    {history : List QuotaEntry} (books : q.Books clock s history) (le : clock ≤ loadedAt)
    (le' : loadedAt ≤ persistedAt) (tier : UserTier) :
    q.Books persistedAt (q.setTier s tier loadedAt persistedAt) history := by
  obtain ⟨loadedBooks, loaded⟩ := (books.later le).ensureLoaded
  exact (loadedBooks.later le').persist loaded rfl rfl rfl

/-- The state a call evaluates in. -/
def prepared (q : TenantQuotaDO) (s : State) (loadedAt now : Int) : State :=
  q.pruneEntries (q.ensureLoaded s loadedAt) now

theorem Books.prepared {clock loadedAt now : Int} {s : State} {history : List QuotaEntry}
    (books : q.Books clock s history) (le : clock ≤ loadedAt) (le' : loadedAt ≤ now) :
    q.Books now (q.prepared s loadedAt now) history ∧
      (q.prepared s loadedAt now).isLoaded = true := by
  obtain ⟨loadedBooks, loaded⟩ := (books.later le).ensureLoaded
  exact ⟨(loadedBooks.later le').pruneEntries, loaded⟩

variable (q)

@[simp] theorem ensureLoaded_storage (s : State) (now : Int) :
    (q.ensureLoaded s now).storage = s.storage := by
  unfold ensureLoaded
  split
  · rfl
  · exact readStorage_storage s

theorem prepared_storage (s : State) (loadedAt now : Int) :
    (q.prepared s loadedAt now).storage = s.storage := q.ensureLoaded_storage s loadedAt

/-- Everything `consumeQuota` can do: reject a foreign tenant, answer without changing
what it has loaded, or take an entry. -/
theorem consumeQuota_cases (s : State) (request : ConsumeQuotaRequest)
    (loadedAt now persistedAt : Int) :
    (∃ error, q.consumeQuota s request loadedAt now persistedAt = (.error error, s)) ∨
    (∃ result, q.consumeQuota s request loadedAt now persistedAt =
        (.ok result, q.prepared s loadedAt now) ∧
      (result.allowed = false ∨ request.checkOnly = true)) ∨
    (∃ result, q.consumeQuota s request loadedAt now persistedAt =
        (.ok result, q.take (q.prepared s loadedAt now)
          (admittedEntry request (q.evaluationContext (q.prepared s loadedAt now) now))
          persistedAt) ∧
      result.allowed = true ∧ request.checkOnly = false ∧
      result.tier = request.tier.getD (q.prepared s loadedAt now).tier ∧
      QuotaErrorCode.firstFailure request
        (q.evaluationContext (q.prepared s loadedAt now) now) = none) := by
  unfold consumeQuota
  cases assertTenant s request.tenantId with
  | error error => exact Or.inl ⟨error, rfl⟩
  | ok _ =>
    refine Or.inr ?_
    simp only
    rw [← prepared]
    rcases evaluateQuota_cases request (q.evaluationContext (q.prepared s loadedAt now) now) with
      ⟨code, -, denied, -, -, noEntry⟩ | ⟨passes, allowed, -, entry⟩
    · rw [noEntry]
      exact Or.inl ⟨_, rfl, Or.inl denied⟩
    · cases dry : request.checkOnly with
      | true =>
        rw [dry, if_pos rfl] at entry
        rw [entry]
        exact Or.inl ⟨_, rfl, Or.inr rfl⟩
      | false =>
        rw [dry, if_neg Bool.false_ne_true] at entry
        rw [entry]
        simp only
        rw [evaluateQuota_incomingCost]
        exact Or.inr ⟨_, rfl, allowed, trivial, evaluateQuota_tier _ _, passes⟩

theorem not_kept {result : ConsumeQuotaResult} {request : ConsumeQuotaRequest}
    (allowed : result.allowed = true) (wet : request.checkOnly = false) :
    ¬(result.allowed = false ∨ request.checkOnly = true) := by
  intro kept
  rcases kept with denied | dry
  · rw [allowed] at denied
    cases denied
  · rw [wet] at dry
    cases dry

/-- What a call does to a run. -/
theorem step_consumeQuota (run : Run) (request : ConsumeQuotaRequest)
    (loadedAt now persistedAt : Int) :
    (∃ error, (q.consumeQuota run.state request loadedAt now persistedAt).1 = .error error ∧
      q.step run (.consumeQuota request loadedAt now persistedAt) =
        ⟨run.state, persistedAt, run.history⟩) ∨
    (∃ result, (q.consumeQuota run.state request loadedAt now persistedAt).1 = .ok result ∧
      (result.allowed = false ∨ request.checkOnly = true) ∧
      q.step run (.consumeQuota request loadedAt now persistedAt) =
        ⟨q.prepared run.state loadedAt now, persistedAt, run.history⟩) ∨
    (∃ result, (q.consumeQuota run.state request loadedAt now persistedAt).1 = .ok result ∧
      result.allowed = true ∧ request.checkOnly = false ∧
      result.tier = request.tier.getD (q.prepared run.state loadedAt now).tier ∧
      QuotaErrorCode.firstFailure request
        (q.evaluationContext (q.prepared run.state loadedAt now) now) = none ∧
      q.step run (.consumeQuota request loadedAt now persistedAt) =
        ⟨q.take (q.prepared run.state loadedAt now)
          (admittedEntry request (q.evaluationContext (q.prepared run.state loadedAt now) now))
          persistedAt, persistedAt,
          run.history ++ [admittedEntry request
            (q.evaluationContext (q.prepared run.state loadedAt now) now)]⟩) := by
  rcases q.consumeQuota_cases run.state request loadedAt now persistedAt with
    ⟨error, eq⟩ | ⟨result, eq, kept⟩ | ⟨result, eq, allowed, wet, tier, passes⟩
  · refine Or.inl ⟨error, by rw [eq], ?_⟩
    simp only [step, eq, granted, List.append_nil]
  · refine Or.inr (Or.inl ⟨result, by rw [eq], kept, ?_⟩)
    have nothing : granted request now (.ok result) = [] := by
      rcases kept with denied | dry
      · simp [granted, denied]
      · simp [granted, dry]
    simp only [step, eq, nothing, List.append_nil]
  · refine Or.inr (Or.inr ⟨result, by rw [eq], allowed, wet, tier, passes, ?_⟩)
    have entry : granted request now (.ok result) =
        [admittedEntry request (q.evaluationContext (q.prepared run.state loadedAt now) now)] := by
      simp only [granted, allowed, wet, Bool.false_eq_true, not_false_eq_true, and_self, if_true]
      rfl
    simp only [step, eq, entry]

theorem step_books (run : Run) (op : Op) (books : q.Books run.clock run.state run.history)
    (ordered : Ordered run op) :
    q.Books (q.step run op).clock (q.step run op).state (q.step run op).history := by
  cases op with
  | consumeQuota request loadedAt now persistedAt =>
    obtain ⟨le, le', le''⟩ := ordered
    obtain ⟨prepared, loaded⟩ := books.prepared le le'
    rcases q.step_consumeQuota run request loadedAt now persistedAt with
      ⟨_, -, eq⟩ | ⟨_, -, -, eq⟩ | ⟨_, -, -, -, -, -, eq⟩
    · rw [eq]
      exact books.later (le.trans (le'.trans le''))
    · rw [eq]
      exact prepared.later le''
    · rw [eq]
      exact prepared.take loaded le'' rfl
  | accrueDebt cuWeight loadedAt persistedAt =>
    exact books.withDebt ordered.1 ordered.2 (·.accrue cuWeight)
  | decrementDebt cuWeight loadedAt persistedAt =>
    exact books.withDebt ordered.1 ordered.2 (·.decrement cuWeight)
  | alarm loadedAt persistedAt =>
    exact books.withDebt ordered.1 ordered.2 (·.processDailyDebtReset)
  | setTier tier loadedAt persistedAt => exact books.setTier ordered.1 ordered.2 tier
  | read now => exact (books.later ordered).ensureLoaded.1
  | clearMemoryCache => exact books.emptied rfl rfl rfl rfl
  | restart => exact books.emptied rfl rfl rfl rfl

theorem start_books (clock : Int) :
    q.Books (q.start clock).clock (q.start clock).state (q.start clock).history where
  past _ mem := absurd mem List.not_mem_nil
  memory loaded := by cases loaded
  unloaded _ := ⟨rfl, rfl⟩
  stored _ stored := by cases stored
  unstored _ := rfl

/-! ## Limits -/

variable {q}

/-- The usage a check finds is what the history holds of its scope in its window. -/
theorem Books.usage {now : Int} {s : State} {history : List QuotaEntry}
    (books : q.Books now s history) (loaded : s.isLoaded = true) {windowMs : Int}
    (nested : windowMs ≤ q.rpdWindowMs) (projectId : Option String) :
    calculateUsage s.entries windowMs now projectId =
      consumed history projectId (now - windowMs) now := by
  have late : ∀ e : QuotaEntry,
      decide (now - windowMs < e.timestamp ∧ inScope projectId e = true) = true →
        now - q.rpdWindowMs < e.timestamp := by
    intro e counted
    have after := (of_decide_eq_true counted).1
    omega
  rw [calculateUsage_eq, (books.memory loaded).retains.total late, consumed]
  apply Gauge.total_congr
  intro e mem
  have past := books.past e mem
  simp [past]

/-- One more entry adds at most its count to a window. -/
theorem consumed_snoc_le (history : List QuotaEntry) (e : QuotaEntry)
    (projectId : Option String) (lo hi : Int) :
    consumed (history ++ [e]) projectId lo hi ≤ consumed history projectId lo hi + e.count := by
  simp only [consumed, Gauge.total_append, Gauge.total_cons, Gauge.total_nil]
  split
  · exact le_refl _
  · omega

variable (q)

/-- What a granted request leaves within the limits it was evaluated with. -/
structure WithinLimits (request : ConsumeQuotaRequest) (tier : UserTier)
    (history : List QuotaEntry) (now : Int) : Prop where
  rpm : ((consumed history none (now - q.rpmWindowMs) now : Int) : Limit) ≤
    (getTierLimits tier).rpmLimit
  rpd : ((consumed history none (now - q.rpdWindowMs) now : Int) : Limit) ≤
    (getTierLimits tier).rpdLimit
  project : ∀ id, request.projectId = some id → id ≠ "" →
    ((consumed history (some id) (now - q.rpmWindowMs) now : Int) : Limit) ≤
      calculateProjectQuota tier request.projectMaxSubCap

variable {q}

/-- A check that passes leaves room for the request in the history of its scope. -/
theorem Books.room {now : Int} {s : State} {history : List QuotaEntry}
    (books : q.Books now s history) (loaded : s.isLoaded = true)
    (nested : q.rpmWindowMs ≤ q.rpdWindowMs) {request : ConsumeQuotaRequest}
    {code : QuotaErrorCode} (passes : code.fails request (q.evaluationContext s now) = false)
    (made : code = .projectSubCapExceeded → (truthyProject request.projectId).isSome) :
    ((consumed history (code.scope request) (now - code.window (q.evaluationContext s now)) now +
        request.requestedCount : Nat) : Int) ≤
      code.limit request (q.evaluationContext s now) := by
  have within : code.window (q.evaluationContext s now) ≤ q.rpdWindowMs := by
    cases code with
    | userQuotaExhausted => exact nested
    | userDailyQuotaExhausted => exact le_refl _
    | projectSubCapExceeded => exact nested
  have found := books.usage loaded within (code.scope request)
  rw [QuotaErrorCode.fails, decide_eq_false_iff_not] at passes
  apply (Limit.not_exceeded_iff _ _).mp
  rw [← found, ← Bool.not_eq_true]
  exact fun exceeds => passes ⟨made, exceeds⟩

theorem Books.withinLimits {now : Int} {s : State} {history : List QuotaEntry}
    (books : q.Books now s history) (loaded : s.isLoaded = true)
    (nested : q.rpmWindowMs ≤ q.rpdWindowMs) {request : ConsumeQuotaRequest}
    (passes : QuotaErrorCode.firstFailure request (q.evaluationContext s now) = none) :
    q.WithinLimits request (request.tier.getD s.tier)
      (history ++ [admittedEntry request (q.evaluationContext s now)]) now := by
  have room (code : QuotaErrorCode)
      (made : code = .projectSubCapExceeded → (truthyProject request.projectId).isSome) :
      ((consumed (history ++ [admittedEntry request (q.evaluationContext s now)])
          (code.scope request) (now - code.window (q.evaluationContext s now)) now : Int) : Limit) ≤
        code.limit request (q.evaluationContext s now) := by
    have before := books.room loaded nested
      (QuotaErrorCode.passes_of_firstFailure request (q.evaluationContext s now) code passes) made
    refine le_trans ?_ before
    exact_mod_cast consumed_snoc_le history _ (code.scope request) _ now
  constructor
  · exact room .userQuotaExhausted (by simp)
  · exact room .userDailyQuotaExhausted (by simp)
  · intro id given real
    have made : (truthyProject request.projectId).isSome := by
      simp [truthyProject, given, real]
    have project := room .projectSubCapExceeded fun _ => made
    simp only [QuotaErrorCode.scope, given] at project
    exact project

variable (q)

/-- In every run under a clock that does not run backwards, a granted call leaves the
history, itself included, within the limits of the tier it was evaluated with. A call
that is denied, a dry run or one for another tenant adds nothing: it leaves the entries
and the total it has loaded and pruned. -/
theorem admission_safe (nested : q.rpmWindowMs ≤ q.rpdWindowMs) (clock : Int) (ops : List Op)
    (ordered : Transition.Guarded q.step Ordered (q.start clock) ops) :
    ∀ run ∈ Transition.reached q.step (q.start clock) ops,
      ∀ request loadedAt now persistedAt,
        Ordered run (.consumeQuota request loadedAt now persistedAt) →
        let after := q.step run (.consumeQuota request loadedAt now persistedAt)
        let outcome := (q.consumeQuota run.state request loadedAt now persistedAt).1
        (∀ result, outcome = .ok result → result.allowed = true → request.checkOnly = false →
          q.WithinLimits request result.tier after.history now) ∧
        (∀ result, outcome = .ok result → result.allowed = false ∨ request.checkOnly = true →
          after.history = run.history ∧
          after.state.entries =
            (q.ensureLoaded run.state loadedAt).entries.filter
              (fun e => now - q.rpdWindowMs < e.timestamp) ∧
          after.state.totalCostMicrodollars =
            (q.ensureLoaded run.state loadedAt).totalCostMicrodollars ∧
          after.state.storage = run.state.storage) ∧
        (∀ error, outcome = .error error →
          after.history = run.history ∧ after.state = run.state) := by
  intro run reached request loadedAt now persistedAt times
  have books := Transition.invariant_of_guarded
    (I := fun run => q.Books run.clock run.state run.history)
    q.step_books (q.start_books clock) ordered run reached
  obtain ⟨prepared, loaded⟩ := books.prepared times.1 times.2.1
  rcases q.step_consumeQuota run request loadedAt now persistedAt with
    ⟨error, returned, eq⟩ | ⟨result, returned, kept, eq⟩ |
      ⟨result, returned, allowed, wet, tier, passes, eq⟩
  · rw [returned, eq]
    refine ⟨?_, ?_, fun _ _ => ⟨rfl, rfl⟩⟩
    · intro result failed
      cases failed
    · intro result failed
      cases failed
  · rw [returned, eq]
    refine ⟨?_, fun _ _ _ => ⟨rfl, rfl, rfl, q.prepared_storage run.state loadedAt now⟩, ?_⟩
    · intro answer answered allowed wet
      cases answered
      exact absurd kept (not_kept allowed wet)
    · intro error failed
      cases failed
  · rw [returned, eq]
    refine ⟨?_, ?_, ?_⟩
    · intro answer answered _ _
      cases answered
      rw [tier]
      exact prepared.withinLimits loaded nested passes
    · intro answer answered kept
      cases answered
      exact absurd kept (not_kept allowed wet)
    · intro error failed
      cases failed

/-- A builder's object with the default windows: a project asks, the cache is dropped,
the daily alarm rings. -/
theorem admission_safe_builder :
    WithinLimits ⟨"acme", .builder, 60000, 86400000⟩ {} .builder
      (step ⟨"acme", .builder, 60000, 86400000⟩
        ([.consumeQuota { projectId := some "p", projectMaxSubCap := some 5 } 1 1 2,
          .clearMemoryCache, .alarm 3 4].foldl (step ⟨"acme", .builder, 60000, 86400000⟩)
          (start ⟨"acme", .builder, 60000, 86400000⟩ 0))
        (.consumeQuota {} 5 5 6)).history 5 := by
  have safe := (admission_safe ⟨"acme", .builder, 60000, 86400000⟩ (by decide) 0
    [.consumeQuota { projectId := some "p", projectMaxSubCap := some 5 } 1 1 2,
      .clearMemoryCache, .alarm 3 4]
    ⟨⟨by decide, by decide, by decide⟩, trivial, ⟨by decide, by decide⟩, trivial⟩
    _ (Transition.foldl_mem_reached _ _ _) {} 5 5 6 ⟨by decide, by decide, by decide⟩).1
  exact safe _ rfl rfl rfl

end KeyCollective.Quota.TenantQuotaDO
