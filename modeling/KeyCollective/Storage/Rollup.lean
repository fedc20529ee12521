import KeyCollective.Storage.CostLedger

/-!
# Rollups and the ledger

A rollup agrees with the ledger when its rows are the totals of the events they stand for.
Recordings keep this, and reconciling a ledger nothing else writes to changes no row.
-/

namespace KeyCollective

/-- Requests, tokens and microdollars. -/
abbrev Totals := Int × Int × Int

def DailySpendRollup.totals (rollup : DailySpendRollup) : Totals :=
  (rollup.totalRequests, rollup.totalTokens, rollup.totalCostMicrodollars)

def ReconcileRollupDbRow.totals (row : ReconcileRollupDbRow) : Totals :=
  (row.totalRequests, row.totalTokens, row.totalCostMicrodollars)

namespace CostLedgerDbRow

variable (row : CostLedgerDbRow)

/-- The rollup's row an event counts in. -/
def rollupKey : RollupKey := ⟨row.event.tenantId, row.day, row.event.provider, row.event.modelId⟩

/-- What an event adds to it. -/
def amounts : Totals := (1, row.tokens, row.event.costMicrodollars)

end CostLedgerDbRow

namespace CostLedgerDb

variable (db : CostLedgerDb)

/-- The totals of the ledger's events of a key, when an event counts for `amounts`. -/
def booked (amounts : CostLedgerDbRow → Totals) (k : RollupKey) : Totals :=
  Aggregate.total CostLedgerDbRow.rollupKey amounts db.ledger.values k

/-- Every row of the rollup has the totals of its events, and every event has one row. -/
structure Agrees : Prop where
  rows : ∀ rollup ∈ db.rollup.values,
    rollup.totals = db.booked CostLedgerDbRow.amounts rollup.key
  events : ∀ row ∈ db.ledger.values,
    ∃! rollup, rollup ∈ db.rollup.values ∧ rollup.key = row.rollupKey

/-- The row of a key has the totals of its events, or there are none. -/
def TalliesAt (amounts : CostLedgerDbRow → Totals) (k : RollupKey) : Prop :=
  match db.rollup.get? k with
  | some rollup => rollup.totals = db.booked amounts k
  | none => ∀ row ∈ db.ledger.values, row.rollupKey ≠ k

variable {db} {k : RollupKey}

theorem agrees_iff : db.Agrees ↔ ∀ k, db.TalliesAt CostLedgerDbRow.amounts k := by
  constructor
  · intro agrees k
    unfold TalliesAt
    split
    case h_1 rollup found =>
      obtain ⟨mem, rfl⟩ := IndexedMap.get?_some found
      exact agrees.rows rollup mem
    case h_2 absent =>
      rintro row stored rfl
      obtain ⟨rollup, ⟨mem, keyed⟩, -⟩ := agrees.events row stored
      rw [← keyed, IndexedMap.get?_of_mem mem] at absent
      cases absent
  · intro all
    constructor
    · intro rollup mem
      have tallies := all rollup.key
      rw [TalliesAt, IndexedMap.get?_of_mem mem] at tallies
      exact tallies
    · intro row stored
      have tallies := all row.rollupKey
      unfold TalliesAt at tallies
      split at tallies
      case h_1 rollup found =>
        refine ⟨rollup, IndexedMap.get?_some found, ?_⟩
        rintro other ⟨mem, keyed⟩
        rw [← keyed, IndexedMap.get?_of_mem mem] at found
        exact Option.some.inj found
      case h_2 => exact absurd rfl (tallies row stored)

end CostLedgerDb

namespace CostLedgerRepository

open Books (except_bind_ok toSqlInteger_ok)

/-! ## Recording -/

theorem count_nonneg {x : Option Number} {n : Int} (counted : count x = some n) : 0 ≤ n := by
  unfold count at counted
  generalize x.getD (.finite 0) = number at counted
  cases number with
  | finite value =>
    obtain rfl := Option.some.inj counted
    exact Rat.num_nonneg.mpr (le_max_left _ _)
  | infinity => cases counted
  | negInfinity =>
    obtain rfl := Option.some.inj counted
    rfl
  | nan => cases counted

theorem isCalendarDay_length {s : String} (day : isCalendarDay s = true) : s.toList.length = 10 := by
  unfold isCalendarDay at day
  split at day
  case h_1 chars => rw [chars]; rfl
  case h_2 => cases day

variable [DateParser] [NumberText]

omit [NumberText] in
theorem formatCalendarDay_toISOString (t : Time) :
    formatCalendarDay (.text t.toISOString) = .ok (sliceDay t.toISOString) := by
  have long : isCalendarDay t.toISOString = false := by
    by_contra day
    have length := isCalendarDay_length (Bool.eq_true_of_not_eq_false day)
    rw [Time.toISOString, String.toList_ofList] at length
    have := t.length_isoChars
    omega
  rw [formatCalendarDay, t.trim_toISOString, long]
  simp only [Bool.false_eq_true, ↓reduceIte, parseDate_toISOString]

omit [NumberText] in
theorem normalizeCreatedAt_ok {createdAt : Option DateInput} {now : Time} {s : String}
    (normalized : normalizeCreatedAt createdAt now = .ok s) : ∃ t : Time, s = t.toISOString := by
  unfold normalizeCreatedAt at normalized
  split at normalized
  case h_1 | h_2 => exact ⟨now, (Except.ok.inj normalized).symm⟩
  case h_3 => cases normalized
  case h_4 t => exact ⟨t, (Except.ok.inj normalized).symm⟩
  case h_5 =>
    split at normalized
    case h_1 t _ => exact ⟨t, (Except.ok.inj normalized).symm⟩
    case h_2 => cases normalized

omit [DateParser] [NumberText] in
/-- An event is stored with the counts of its input. -/
theorem boundEvent_some {input : CostLedgerEventInput} {stored : Int} {event : CostLedgerEvent}
    (bound : boundEvent input stored = some event) :
    event.costMicrodollars = stored ∧ count input.promptTokens = some event.promptTokens ∧
      count input.completionTokens = some event.completionTokens ∧
      count input.reasoningTokens = some event.reasoningTokens := by
  simp only [boundEvent, Option.bind_eq_bind, Option.bind_eq_some_iff, Option.pure_def,
    Option.some.injEq] at bound
  obtain ⟨prompt, prompt_counted, completion, completion_counted, cached, -, reasoning,
    reasoning_counted, latency, -, rfl⟩ := bound
  refine ⟨rfl, prompt_counted.trans ?_, completion_counted.trans ?_, reasoning_counted.trans ?_⟩
  · exact congrArg some (max_eq_right (count_nonneg prompt_counted)).symm
  · exact congrArg some (max_eq_right (count_nonneg completion_counted)).symm
  · exact congrArg some (max_eq_right (count_nonneg reasoning_counted)).symm

/-- The increment of a recording is for the row its event counts in. -/
structure Recording (input : CostLedgerEventInput) (row : CostLedgerDbRow)
    (excluded : DailySpendRollup) : Prop where
  keyed : excluded.key = row.rollupKey
  requests : excluded.totalRequests = 1
  tokens : excluded.totalTokens = totalTokens row.event
  cost : excluded.totalCostMicrodollars = row.event.costMicrodollars
  prompt : count input.promptTokens = some row.event.promptTokens
  completion : count input.completionTokens = some row.event.completionTokens
  reasoning : count input.reasoningTokens = some row.event.reasoningTokens

theorem bindRecording_ok {input : CostLedgerEventInput} {uuid : String} {now : Time}
    {row : CostLedgerDbRow} {excluded : DailySpendRollup}
    (bound : bindRecording input uuid now = .ok (some (row, excluded))) :
    Recording input row excluded := by
  obtain ⟨⟨⟩, -, named⟩ := except_bind_ok.mp bound
  obtain ⟨createdAt, normalized, dated⟩ := except_bind_ok.mp named
  obtain ⟨t, rfl⟩ := normalizeCreatedAt_ok normalized
  obtain ⟨day, formatted, costed⟩ := except_bind_ok.mp dated
  rw [formatCalendarDay_toISOString] at formatted
  obtain rfl := Except.ok.inj formatted
  obtain ⟨cost, -, costed⟩ := except_bind_ok.mp costed
  obtain ⟨stored, -, counted⟩ := except_bind_ok.mp costed
  obtain ⟨event, counts, same⟩ := Option.map_eq_some_iff.mp (Except.ok.inj counted)
  obtain ⟨cost_eq, prompt, completion, reasoning⟩ := boundEvent_some counts
  cases same
  exact ⟨rfl, rfl, rfl, cost_eq.symm, prompt, completion, reasoning⟩

/-- A recording that succeeds has run both statements of its batch. -/
theorem recordEventWithRollup_ok {db after : CostLedgerDb} {input : CostLedgerEventInput}
    {uuid : String} {now : Time} {row : CostLedgerDbRow}
    (recorded : recordEventWithRollup db input uuid now = .ok (after, row)) :
    ∃ excluded, Recording input row excluded ∧ db.ledger.get? row.id = none ∧
      after = upsertRollup { db with ledger := db.ledger.set row } excluded := by
  unfold recordEventWithRollup at recorded
  cases bound : bindRecording input uuid now with
  | error e => simp [bound] at recorded
  | ok statements =>
    cases statements with
    | none => simp [bound] at recorded
    | some statements =>
      obtain ⟨row', excluded⟩ := statements
      simp only [bound, Option.bind_some, insertEvent] at recorded
      by_cases taken : db.ledger.has row'.id = true
      · simp [taken] at recorded
      · rw [if_neg taken] at recorded
        cases recorded
        refine ⟨excluded, bindRecording_ok bound, ?_, rfl⟩
        simpa [IndexedMap.has] using taken

omit [DateParser] [NumberText]

/-- What a recorded event adds to the totals. -/
theorem booked_recorded {db : CostLedgerDb} {row : CostLedgerDbRow}
    (fresh : db.ledger.get? row.id = none) (rollup : IndexedMap DailySpendRollup.key)
    (amounts : CostLedgerDbRow → Totals) (k : RollupKey) :
    CostLedgerDb.booked ⟨db.ledger.set row, rollup⟩ amounts k =
      db.booked amounts k + if row.rollupKey = k then amounts row else 0 :=
  IndexedMap.sum_set_new _ _ fresh

/-- The rollup's row of the increment's key has its totals added; no other row changes. -/
theorem get?_upsertRollup (db : CostLedgerDb) (excluded : DailySpendRollup) (k : RollupKey) :
    if excluded.key = k then
      ∃ rollup, (upsertRollup db excluded).rollup.get? k = some rollup ∧
        rollup.totals = ((db.rollup.get? k).map DailySpendRollup.totals).getD 0 + excluded.totals
    else (upsertRollup db excluded).rollup.get? k = db.rollup.get? k := by
  unfold upsertRollup
  simp only [IndexedMap.get?_set]
  cases found : db.rollup.get? excluded.key with
  | none =>
    split
    case isTrue here =>
      subst here
      refine ⟨excluded, rfl, ?_⟩
      rw [found]
      exact (zero_add _).symm
    case isFalse => rfl
  | some rollup =>
    have keyed : rollup.key = excluded.key := (IndexedMap.get?_some found).2
    have merged : DailySpendRollup.key { rollup with
        totalRequests := rollup.totalRequests + excluded.totalRequests
        totalTokens := rollup.totalTokens + excluded.totalTokens
        totalCostMicrodollars := rollup.totalCostMicrodollars + excluded.totalCostMicrodollars } =
        excluded.key := keyed
    simp only [merged]
    split
    case isTrue here =>
      subst here
      refine ⟨_, rfl, ?_⟩
      rw [found]
      rfl
    case isFalse => rfl

/-- A recording keeps the tallies of amounts that its increment has. -/
theorem record_tallies {db : CostLedgerDb} {row : CostLedgerDbRow} {excluded : DailySpendRollup}
    {amounts : CostLedgerDbRow → Totals} {k : RollupKey} (before : db.TalliesAt amounts k)
    (keyed : excluded.key = row.rollupKey) (increment : excluded.totals = amounts row)
    (fresh : db.ledger.get? row.id = none) :
    (upsertRollup { db with ledger := db.ledger.set row } excluded).TalliesAt amounts k := by
  have upserted := get?_upsertRollup { db with ledger := db.ledger.set row } excluded k
  have total : (upsertRollup { db with ledger := db.ledger.set row } excluded).booked amounts k =
      db.booked amounts k + if row.rollupKey = k then amounts row else 0 :=
    booked_recorded fresh _ amounts k
  rw [keyed] at upserted
  unfold CostLedgerDb.TalliesAt at before ⊢
  rw [total]
  by_cases here : row.rollupKey = k
  · rw [if_pos here] at upserted ⊢
    obtain ⟨rollup, found, totals⟩ := upserted
    rw [found]
    change rollup.totals = _
    rw [totals, increment]
    congr 1
    cases stored : db.rollup.get? k with
    | none =>
      rw [stored] at before
      exact (Aggregate.total_absent before).symm
    | some rollup =>
      rw [stored] at before
      exact before
  · rw [if_neg here] at upserted ⊢
    rw [upserted, add_zero]
    cases stored : db.rollup.get? k with
    | some rollup =>
      rw [stored] at before
      exact before
    | none =>
      rw [stored] at before
      intro event mem
      rcases IndexedMap.mem_set mem with rfl | mem
      · exact here
      · exact before event mem

/-! ## Reconciling -/

/-- The row of the rollup that a row of the aggregate becomes. -/
def asRollup (tenantId dayStr : String) (row : ReconcileRollupDbRow) : DailySpendRollup :=
  ⟨trim tenantId, dayStr, row.provider, row.modelId, row.totalRequests, row.totalTokens,
    row.totalCostMicrodollars⟩

/-- The key of an aggregate's row. -/
def aggregateKey (tenantId dayStr : String) (row : ReconcileRollupDbRow) : RollupKey :=
  ⟨tenantId, dayStr, row.provider, row.modelId⟩

/-- The three sums of the `SELECT` are those of the ledger's events of the key. -/
theorem booked_eq (db : CostLedgerDb) (k : RollupKey) :
    db.booked CostLedgerDbRow.amounts k =
      (Aggregate.total CostLedgerDbRow.rollupKey (fun _ => 1) db.ledger.values k,
        Aggregate.total CostLedgerDbRow.rollupKey CostLedgerDbRow.tokens db.ledger.values k,
        Aggregate.total CostLedgerDbRow.rollupKey (·.event.costMicrodollars) db.ledger.values k) := by
  refine Prod.ext ?_ (Prod.ext ?_ ?_)
  · exact Aggregate.map_total (AddMonoidHom.fst Int (Int × Int))
  · exact Aggregate.map_total ((AddMonoidHom.fst Int Int).comp (AddMonoidHom.snd Int (Int × Int)))
  · exact Aggregate.map_total ((AddMonoidHom.snd Int Int).comp (AddMonoidHom.snd Int (Int × Int)))

/-- The `WHERE` and the `GROUP BY` single out the events of one key of the rollup. -/
theorem rollupKey_eq_iff (tenantId day : String) (group : String × String)
    (row : CostLedgerDbRow) :
    row.rollupKey = ⟨tenantId, day, group.1, group.2⟩ ↔
      decide (row.event.tenantId = tenantId ∧ row.day = day) = true ∧ row.group = group := by
  rw [CostLedgerDbRow.rollupKey, CostLedgerDbRow.group, RollupKey.mk.injEq, decide_eq_true_eq,
    and_assoc, Prod.ext_iff]

theorem mem_aggregate {db : CostLedgerDb} {tenantId day : String} {row : ReconcileRollupDbRow} :
    row ∈ aggregate db tenantId day ↔
      (∃ event ∈ db.ledger.values, event.rollupKey = aggregateKey tenantId day row) ∧
        row.totals = db.booked CostLedgerDbRow.amounts (aggregateKey tenantId day row) := by
  rw [aggregate, List.mem_map, booked_eq]
  have sums (group : String × String) {M : Type} [AddCommMonoid M] (measure : CostLedgerDbRow → M) :
      Aggregate.total CostLedgerDbRow.group measure (db.ledger.values.filter fun row =>
          row.event.tenantId = tenantId ∧ row.day = day) group =
        Aggregate.total CostLedgerDbRow.rollupKey measure db.ledger.values
          ⟨tenantId, day, group.1, group.2⟩ :=
    Aggregate.total_filter (rollupKey_eq_iff tenantId day group)
  constructor
  · rintro ⟨group, grouped, rfl⟩
    obtain ⟨event, stored, same⟩ := Aggregate.mem_groups.mp grouped
    obtain ⟨mem, selected⟩ := List.mem_filter.mp stored
    refine ⟨⟨event, mem, (rollupKey_eq_iff tenantId day group event).mpr ⟨selected, same⟩⟩, ?_⟩
    rw [ReconcileRollupDbRow.totals, sums, sums, sums]
    rfl
  · rintro ⟨⟨event, mem, keyed⟩, totals⟩
    obtain ⟨selected, same⟩ :=
      (rollupKey_eq_iff tenantId day (row.provider, row.modelId) event).mp keyed
    refine ⟨(row.provider, row.modelId),
      Aggregate.mem_groups.mpr ⟨event, List.mem_filter.mpr ⟨mem, selected⟩, same⟩, ?_⟩
    have requests := congrArg Prod.fst totals
    have tokens := congrArg (fun sums => sums.2.1) totals
    have cost := congrArg (fun sums => sums.2.2) totals
    rw [sums, sums, sums]
    cases row
    exact ReconcileRollupDbRow.mk.injEq .. ▸ ⟨rfl, rfl, requests.symm, tokens.symm, cost.symm⟩

theorem nodup_aggregate (db : CostLedgerDb) (tenantId day : String) :
    ((aggregate db tenantId day).map fun row => (row.provider, row.modelId)).Nodup := by
  rw [aggregate, List.map_map]
  exact (List.map_id' _).symm ▸ Aggregate.nodup_groups _ _

theorem reconciledRollup_ok {tenantId dayStr : String} {row : ReconcileRollupDbRow}
    {rollup : DailySpendRollup} :
    reconciledRollup tenantId dayStr row = .ok rollup ↔
      isSafeInteger row.totalCostMicrodollars = true ∧ rollup = asRollup tenantId dayStr row := by
  rw [reconciledRollup, isSafeInteger, decide_eq_true_eq]
  constructor
  · intro ok
    obtain ⟨cost, integer, built⟩ := except_bind_ok.mp ok
    obtain ⟨low, high, rfl⟩ := toSqlInteger_ok.mp integer
    exact ⟨⟨low, high⟩, (Except.ok.inj built).symm⟩
  · rintro ⟨⟨low, high⟩, rfl⟩
    exact except_bind_ok.mpr ⟨_, toSqlInteger_ok.mpr ⟨low, high, rfl⟩, rfl⟩

theorem mapM_reconciledRollup {tenantId dayStr : String} {rows : List ReconcileRollupDbRow}
    {reconciled : List DailySpendRollup} :
    rows.mapM (reconciledRollup tenantId dayStr) = .ok reconciled ↔
      (∀ row ∈ rows, isSafeInteger row.totalCostMicrodollars = true) ∧
        reconciled = rows.map (asRollup tenantId dayStr) := by
  induction rows generalizing reconciled with
  | nil =>
    rw [List.mapM_nil, List.map_nil]
    constructor
    · intro ok
      cases ok
      exact ⟨fun row mem => absurd mem List.not_mem_nil, rfl⟩
    · rintro ⟨-, rfl⟩
      rfl
  | cons row rest ih =>
    rw [List.mapM_cons, List.map_cons, List.forall_mem_cons]
    constructor
    · intro ok
      obtain ⟨first, built, ok⟩ := except_bind_ok.mp ok
      obtain ⟨later, mapped, ok⟩ := except_bind_ok.mp ok
      obtain ⟨safe, rfl⟩ := reconciledRollup_ok.mp built
      obtain ⟨all, rfl⟩ := ih.mp mapped
      exact ⟨⟨safe, all⟩, (Except.ok.inj ok).symm⟩
    · rintro ⟨⟨safe, all⟩, rfl⟩
      exact except_bind_ok.mpr ⟨_, reconciledRollup_ok.mpr ⟨safe, rfl⟩,
        except_bind_ok.mpr ⟨_, ih.mpr ⟨all, rfl⟩, rfl⟩⟩

/-- Inserting rows fails when a key is taken. -/
theorem foldlM_insertRollup {rows : List DailySpendRollup}
    {rollup after : IndexedMap DailySpendRollup.key} :
    rows.foldlM insertRollup rollup = some after ↔
      (rows.map DailySpendRollup.key).Nodup ∧ (∀ row ∈ rows, rollup.get? row.key = none) ∧
        after = rollup.setAll rows := by
  induction rows generalizing rollup with
  | nil =>
    rw [List.foldlM_nil, IndexedMap.setAll_nil]
    constructor
    · intro same
      exact ⟨List.nodup_nil, fun row mem => absurd mem List.not_mem_nil, (Option.some.inj same).symm⟩
    · rintro ⟨-, -, rfl⟩
      rfl
  | cons row rest ih =>
    rw [List.foldlM_cons, Option.bind_eq_bind, Option.bind_eq_some_iff, List.map_cons,
      List.nodup_cons, List.forall_mem_cons, IndexedMap.setAll_cons]
    have free : ∀ later ∈ rest, (rollup.set row).get? later.key = none ↔
        row.key ≠ later.key ∧ rollup.get? later.key = none := by
      intro later _
      rw [IndexedMap.get?_set]
      split
      case isTrue same => simp [same]
      case isFalse other => simp [other]
    constructor
    · rintro ⟨next, inserted, ok⟩
      obtain ⟨distinct, absent, rfl⟩ := ih.mp ok
      unfold insertRollup at inserted
      split at inserted
      case isTrue => cases inserted
      case isFalse untaken =>
        cases inserted
        refine ⟨⟨?_, distinct⟩, ⟨by simpa [IndexedMap.has] using untaken, ?_⟩, rfl⟩
        · intro taken
          obtain ⟨later, mem, same⟩ := List.mem_map.mp taken
          exact ((free later mem).mp (absent later mem)).1 same.symm
        · exact fun later mem => ((free later mem).mp (absent later mem)).2
    · rintro ⟨⟨other, distinct⟩, ⟨absent, rest_absent⟩, rfl⟩
      have inserted : insertRollup rollup row = some (rollup.set row) := by
        simp [insertRollup, IndexedMap.has, absent]
      refine ⟨_, inserted, ih.mpr ⟨distinct, fun later mem => (free later mem).mpr ⟨?_, ?_⟩, rfl⟩⟩
      · exact fun same => other (same ▸ List.mem_map_of_mem mem)
      · exact rest_absent later mem

theorem get?_deleteRollup (rollup : IndexedMap DailySpendRollup.key) (tenantId day : String)
    (k : RollupKey) :
    (deleteRollup rollup tenantId day).get? k =
      if k.tenantId = tenantId ∧ k.day = day then none else rollup.get? k := by
  rw [deleteRollup, IndexedMap.get?_filter]
  cases found : rollup.get? k with
  | none => simp
  | some row =>
    obtain ⟨-, rfl⟩ := IndexedMap.get?_some found
    rw [Option.filter_some]
    simp only [DailySpendRollup.key, decide_eq_true_eq, ite_not]
    exact if_congr Iff.rfl rfl rfl

/-- Keys of the rows a reconciliation inserts are as distinct as the aggregate's groups. -/
theorem nodup_asRollup (tenantId dayStr : String) (rows : List ReconcileRollupDbRow) :
    ((rows.map (asRollup tenantId dayStr)).map DailySpendRollup.key).Nodup ↔
      (rows.map fun row => (row.provider, row.modelId)).Nodup := by
  have keys : (rows.map (asRollup tenantId dayStr)).map DailySpendRollup.key =
      (rows.map fun row => (row.provider, row.modelId)).map fun group =>
        ⟨trim tenantId, dayStr, group.1, group.2⟩ := by
    rw [List.map_map, List.map_map]
    rfl
  rw [keys]
  refine List.nodup_map_iff fun first second same => ?_
  rw [RollupKey.mk.injEq] at same
  exact Prod.ext same.2.2.1 same.2.2.2

theorem rewriteRollup_ok {db after : CostLedgerDb} {tenantId dayStr : String}
    {rows : List ReconcileRollupDbRow} {reconciled : List DailySpendRollup} :
    rewriteRollup db tenantId dayStr rows = .ok (after, reconciled) ↔
      (∀ row ∈ rows, isSafeInteger row.totalCostMicrodollars = true) ∧
        (rows.map fun row => (row.provider, row.modelId)).Nodup ∧
        reconciled = rows.map (asRollup tenantId dayStr) ∧
        after = { db with
          rollup := (deleteRollup db.rollup (trim tenantId) dayStr).setAll reconciled } := by
  have free : ∀ row ∈ rows.map (asRollup tenantId dayStr),
      (deleteRollup db.rollup (trim tenantId) dayStr).get? row.key = none := by
    intro row mem
    obtain ⟨read, -, rfl⟩ := List.mem_map.mp mem
    rw [get?_deleteRollup]
    exact if_pos ⟨rfl, rfl⟩
  unfold rewriteRollup
  constructor
  · intro ok
    split at ok
    case h_1 => cases ok
    case h_2 mapped =>
      obtain ⟨safe, rfl⟩ := mapM_reconciledRollup.mp mapped
      split at ok
      case h_1 => cases ok
      case h_2 inserted =>
        obtain ⟨distinct, -, rfl⟩ := foldlM_insertRollup.mp inserted
        cases ok
        exact ⟨safe, (nodup_asRollup tenantId dayStr rows).mp distinct, rfl, rfl⟩
  · rintro ⟨safe, distinct, rfl, rfl⟩
    rw [mapM_reconciledRollup.mpr ⟨safe, rfl⟩]
    have inserted := foldlM_insertRollup.mpr
      ⟨(nodup_asRollup tenantId dayStr rows).mpr distinct, free, rfl⟩
    simp only [inserted]

/-- After the batch the tenant's day has the rows inserted, and every other row is as before. -/
theorem get?_rewritten (db : CostLedgerDb) (tenantId dayStr : String)
    {rows : List ReconcileRollupDbRow}
    (distinct : (rows.map fun row => (row.provider, row.modelId)).Nodup) (k : RollupKey) :
    ((deleteRollup db.rollup (trim tenantId) dayStr).setAll
        (rows.map (asRollup tenantId dayStr))).get? k =
      if k.tenantId = trim tenantId ∧ k.day = dayStr then
        (rows.map (asRollup tenantId dayStr)).find? fun row => row.key = k
      else db.rollup.get? k := by
  rw [IndexedMap.get?_setAll _ ((nodup_asRollup tenantId dayStr rows).mpr distinct),
    get?_deleteRollup]
  split
  case isTrue => rw [Option.or_none]
  case isFalse elsewhere =>
    have absent : ((rows.map (asRollup tenantId dayStr)).find? fun row => row.key = k) = none := by
      rw [List.find?_eq_none]
      intro row mem keyed
      obtain ⟨read, -, rfl⟩ := List.mem_map.mp mem
      obtain rfl := of_decide_eq_true keyed
      exact elsewhere ⟨rfl, rfl⟩
    rw [absent, Option.none_or]

/-- The rows are what the aggregate of the ledger for the tenant and the day is. -/
def Current (db : CostLedgerDb) (tenantId day : String) (rows : List ReconcileRollupDbRow) : Prop :=
  (∀ row ∈ rows, row ∈ aggregate db tenantId day) ∧ ∀ row ∈ aggregate db tenantId day, row ∈ rows

instance (db : CostLedgerDb) (tenantId day : String) (rows : List ReconcileRollupDbRow) :
    Decidable (Current db tenantId day rows) :=
  inferInstanceAs (Decidable (_ ∧ _))

/-- What the batch inserts for a key has its totals, and is there when the key has events. -/
theorem find?_current {db : CostLedgerDb} {tenantId dayStr : String}
    {rows : List ReconcileRollupDbRow} (current : Current db (trim tenantId) dayStr rows)
    {k : RollupKey} (here : k.tenantId = trim tenantId ∧ k.day = dayStr) :
    match (rows.map (asRollup tenantId dayStr)).find? fun row => row.key = k with
    | some rollup => rollup.key = k ∧ rollup.totals = db.booked CostLedgerDbRow.amounts k ∧
        ∃ event ∈ db.ledger.values, event.rollupKey = k
    | none => ∀ event ∈ db.ledger.values, event.rollupKey ≠ k := by
  split
  case h_1 rollup found =>
    have keyed : rollup.key = k := by simpa using List.find?_some found
    obtain ⟨row, mem, rfl⟩ := List.mem_map.mp (List.mem_of_find?_eq_some found)
    obtain ⟨event, totals⟩ := mem_aggregate.mp (current.1 row mem)
    have same : aggregateKey (trim tenantId) dayStr row = k := keyed
    rw [same] at event totals
    exact ⟨keyed, totals, event⟩
  case h_2 absent =>
    intro event stored keyed
    let sums := db.booked CostLedgerDbRow.amounts k
    let row : ReconcileRollupDbRow := ⟨k.provider, k.modelId, sums.1, sums.2.1, sums.2.2⟩
    have same : aggregateKey (trim tenantId) dayStr row = k := by
      rw [aggregateKey, ← here.1, ← here.2]
    have mem : row ∈ rows :=
      current.2 row (mem_aggregate.mpr ⟨⟨event, stored, same ▸ keyed⟩, same.symm ▸ rfl⟩)
    exact List.find?_eq_none.mp absent _ (List.mem_map_of_mem mem) (decide_eq_true same)

/-- A batch whose rows are those of the ledger leaves a rollup that agrees with it. -/
theorem rewrite_agrees {db after : CostLedgerDb} {tenantId dayStr : String}
    {rows : List ReconcileRollupDbRow} {reconciled : List DailySpendRollup} (agrees : db.Agrees)
    (current : Current db (trim tenantId) dayStr rows)
    (ok : rewriteRollup db tenantId dayStr rows = .ok (after, reconciled)) : after.Agrees := by
  obtain ⟨-, distinct, rfl, rfl⟩ := rewriteRollup_ok.mp ok
  rw [CostLedgerDb.agrees_iff] at agrees ⊢
  intro k
  have before := agrees k
  unfold CostLedgerDb.TalliesAt at before ⊢
  rw [get?_rewritten db tenantId dayStr distinct]
  by_cases here : k.tenantId = trim tenantId ∧ k.day = dayStr
  · rw [if_pos here]
    have inserted := find?_current current here
    cases found : (rows.map (asRollup tenantId dayStr)).find? fun row => row.key = k with
    | some rollup =>
      rw [found] at inserted
      exact inserted.2.1
    | none =>
      rw [found] at inserted
      exact inserted
  · rw [if_neg here]
    exact before

end CostLedgerRepository

end KeyCollective
