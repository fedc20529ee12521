import KeyCollective.Storage.Rollup

/-!
# Reconciliation

Without other calls a reconciliation finds the rollup as the recordings left it: it deletes
the rows of a day and inserts the same ones.
-/

namespace KeyCollective

/-- The totals are integers a number holds exactly. -/
structure DailySpendRollup.Safe (rollup : DailySpendRollup) : Prop where
  requests : isSafeInteger rollup.totalRequests = true
  tokens : isSafeInteger rollup.totalTokens = true
  cost : isSafeInteger rollup.totalCostMicrodollars = true

theorem DailySpendRollup.ext {first second : DailySpendRollup} (keys : first.key = second.key)
    (totals : first.totals = second.totals) : first = second := by
  obtain ⟨tenant, day, provider, model⟩ := RollupKey.mk.injEq .. ▸ keys
  obtain ⟨requests, rest⟩ := Prod.ext_iff.mp totals
  obtain ⟨tokens, cost⟩ := Prod.ext_iff.mp rest
  cases first
  cases second
  exact DailySpendRollup.mk.injEq .. ▸ ⟨tenant, day, provider, model, requests, tokens, cost⟩

def CostLedgerDb.empty : CostLedgerDb := ⟨IndexedMap.empty, IndexedMap.empty⟩

/-- The same set of rollup rows. -/
def CostLedgerDb.SameRollup (first second : CostLedgerDb) : Prop :=
  ∀ rollup, rollup ∈ first.rollup.values ↔ rollup ∈ second.rollup.values

theorem CostLedgerDb.sameRollup {first second : CostLedgerDb}
    (same : ∀ k, first.rollup.get? k = second.rollup.get? k) : first.SameRollup second := by
  intro rollup
  constructor
  · intro mem
    exact (IndexedMap.get?_some (same _ ▸ IndexedMap.get?_of_mem mem)).1
  · intro mem
    exact (IndexedMap.get?_some ((same _).symm ▸ IndexedMap.get?_of_mem mem)).1

namespace CostLedgerRepository

structure RecordCall where
  input : CostLedgerEventInput
  uuid : String
  now : Time

/-- What an event adds to the rollup: its tokens are added up as numbers. -/
def recordedAmounts (row : CostLedgerDbRow) : Totals :=
  (1, totalTokens row.event, row.event.costMicrodollars)

/-- What recordings keep: the rollup has what they added, rows and events count, and no number
of tokens is negative. -/
structure Recorded (db : CostLedgerDb) : Prop where
  tallies : ∀ k, db.TalliesAt recordedAmounts k
  counted : ∀ rollup ∈ db.rollup.values, 0 < rollup.totalRequests
  natural : ∀ row ∈ db.ledger.values,
    0 ≤ row.event.promptTokens ∧ 0 ≤ row.event.completionTokens ∧ 0 ≤ row.event.reasoningTokens

section

variable [DateParser] [NumberText]

/-- The database after a recording; one that throws changes nothing. -/
def record (db : CostLedgerDb) (call : RecordCall) : CostLedgerDb :=
  match recordEventWithRollup db call.input call.uuid call.now with
  | .ok (after, _) => after
  | .error _ => db

def afterReconcile (db : CostLedgerDb) (tenantId : String) (day : DateInput) : CostLedgerDb :=
  match reconcileDailyRollupFromLedger db tenantId day with
  | .ok (after, _) => after
  | .error _ => db

theorem Recorded.record {db : CostLedgerDb} (recorded : Recorded db) (call : RecordCall) :
    Recorded (record db call) := by
  unfold CostLedgerRepository.record
  split
  case h_2 => exact recorded
  case h_1 after row ok =>
    obtain ⟨excluded, recording, fresh, rfl⟩ := recordEventWithRollup_ok ok
    have increment : excluded.totals = recordedAmounts row := by
      rw [DailySpendRollup.totals, recording.requests, recording.tokens, recording.cost]
      rfl
    constructor
    · exact fun k => record_tallies (recorded.tallies k) recording.keyed increment fresh
    · intro rollup mem
      have stored := IndexedMap.get?_of_mem mem
      have upserted := get?_upsertRollup { db with ledger := db.ledger.set row } excluded rollup.key
      split at upserted
      case isTrue =>
        obtain ⟨merged, found, totals⟩ := upserted
        obtain rfl := Option.some.inj (stored.symm.trans found)
        have requests := congrArg Prod.fst totals
        rw [Prod.fst_add] at requests
        change rollup.totalRequests = _ + excluded.totalRequests at requests
        rw [requests, recording.requests]
        cases before : db.rollup.get? rollup.key with
        | none => exact Int.one_pos
        | some old =>
          have requests := recorded.counted old (IndexedMap.get?_some before).1
          change 0 < old.totalRequests + 1
          omega
      case isFalse =>
        exact recorded.counted rollup (IndexedMap.get?_some (upserted ▸ stored)).1
    · intro event mem
      rcases IndexedMap.mem_set mem with rfl | mem
      · exact ⟨count_nonneg recording.prompt, count_nonneg recording.completion,
          count_nonneg recording.reasoning⟩
      · exact recorded.natural event mem

theorem Recorded.recordAll {db : CostLedgerDb} (recorded : Recorded db)
    (calls : List RecordCall) : Recorded (calls.foldl CostLedgerRepository.record db) := by
  induction calls generalizing db with
  | nil => exact recorded
  | cons call rest ih => exact ih (recorded.record call)

end

theorem recorded_empty : Recorded CostLedgerDb.empty where
  tallies _ _ mem := absurd mem List.not_mem_nil
  counted _ mem := absurd mem List.not_mem_nil
  natural _ mem := absurd mem List.not_mem_nil

theorem numberOfBigInt_nonneg {n : Int} (natural : 0 ≤ n) : 0 ≤ numberOfBigInt n := by
  obtain rfl | positive := natural.eq_or_lt
  · decide
  · exact (numberOfBigInt_pos positive).le

theorem totalTokens_nonneg {event : CostLedgerEvent} (prompt : 0 ≤ event.promptTokens)
    (completion : 0 ≤ event.completionTokens) (reasoning : 0 ≤ event.reasoningTokens) :
    0 ≤ totalTokens event :=
  numberOfBigInt_nonneg (add_nonneg (numberOfBigInt_nonneg (add_nonneg prompt completion)) reasoning)

/-- A sum of numbers that comes out in the safe range is exact. -/
theorem totalTokens_exact {row : CostLedgerDbRow} (prompt : 0 ≤ row.event.promptTokens)
    (completion : 0 ≤ row.event.completionTokens) (reasoning : 0 ≤ row.event.reasoningTokens)
    (small : totalTokens row.event ≤ maxSafeInteger) : totalTokens row.event = row.tokens := by
  have natural := totalTokens_nonneg prompt completion reasoning
  have first := numberOfBigInt_nonneg (add_nonneg prompt completion)
  unfold totalTokens at natural small ⊢
  have outer := numberOfBigInt_eq_of_safe (n := numberOfBigInt (row.event.promptTokens +
    row.event.completionTokens) + row.event.reasoningTokens)
    (decide_eq_true ⟨by unfold maxSafeInteger; omega, small⟩)
  rw [outer] at small ⊢
  have inner := numberOfBigInt_eq_of_safe (n := row.event.promptTokens + row.event.completionTokens)
    (decide_eq_true ⟨by unfold maxSafeInteger; omega, by omega⟩)
  rw [inner]
  rfl

/-- Where the rollup's totals are safe, they are those of the ledger. -/
theorem Recorded.agrees {db : CostLedgerDb} (recorded : Recorded db)
    (safe : ∀ rollup ∈ db.rollup.values, rollup.Safe) : db.Agrees := by
  have exact_event : ∀ event ∈ db.ledger.values, recordedAmounts event = event.amounts := by
    intro event stored
    obtain ⟨prompt, completion, reasoning⟩ := recorded.natural event stored
    have tallies := recorded.tallies event.rollupKey
    unfold CostLedgerDb.TalliesAt at tallies
    split at tallies
    case h_2 => exact absurd rfl (tallies event stored)
    case h_1 rollup found =>
      have small := (of_decide_eq_true (safe rollup (IndexedMap.get?_some found).1).tokens).2
      have tokens := congrArg (fun sums => sums.2.1) tallies
      change rollup.totalTokens = (db.booked recordedAmounts event.rollupKey).2.1 at tokens
      have sum : (db.booked recordedAmounts event.rollupKey).2.1 =
          Aggregate.total CostLedgerDbRow.rollupKey (fun row => totalTokens row.event)
            db.ledger.values event.rollupKey :=
        Aggregate.map_total
          ((AddMonoidHom.fst Int Int).comp (AddMonoidHom.snd Int (Int × Int)))
      have natural : ∀ other ∈ db.ledger.values, 0 ≤ totalTokens other.event := by
        intro other mem
        obtain ⟨prompt, completion, reasoning⟩ := recorded.natural other mem
        exact totalTokens_nonneg prompt completion reasoning
      have part : totalTokens event.event ≤ rollup.totalTokens := by
        rw [tokens, sum]
        exact Aggregate.le_total stored natural
      rw [recordedAmounts, totalTokens_exact prompt completion reasoning (part.trans small)]
      rfl
  rw [CostLedgerDb.agrees_iff]
  intro k
  have tallies := recorded.tallies k
  have same : db.booked recordedAmounts k = db.booked CostLedgerDbRow.amounts k :=
    Aggregate.total_congr exact_event
  unfold CostLedgerDb.TalliesAt at tallies ⊢
  rw [← same]
  exact tallies

/-- Rows that are in the safe range are read as they are. -/
theorem read_aggregate {db : CostLedgerDb} (agrees : db.Agrees)
    (safe : ∀ rollup ∈ db.rollup.values, rollup.Safe) (tenantId day : String) :
    (aggregate db tenantId day).map readRow = aggregate db tenantId day ∧
      ∀ row ∈ aggregate db tenantId day, isSafeInteger row.totalCostMicrodollars = true := by
  have all : ∀ row ∈ aggregate db tenantId day,
      readRow row = row ∧ isSafeInteger row.totalCostMicrodollars = true := by
    intro row mem
    obtain ⟨⟨event, stored, keyed⟩, totals⟩ := mem_aggregate.mp mem
    obtain ⟨rollup, ⟨found, same⟩, -⟩ := agrees.events event stored
    have equal : row.totals = rollup.totals := by
      rw [totals, agrees.rows rollup found, same, keyed]
    obtain ⟨requests, rest⟩ := Prod.ext_iff.mp equal
    obtain ⟨tokens, cost⟩ := Prod.ext_iff.mp rest
    change row.totalRequests = rollup.totalRequests at requests
    change row.totalTokens = rollup.totalTokens at tokens
    change row.totalCostMicrodollars = rollup.totalCostMicrodollars at cost
    have limits := safe rollup found
    refine ⟨?_, cost ▸ limits.cost⟩
    rw [readRow, requests, tokens, cost, numberOfBigInt_of_safe limits.requests,
      numberOfBigInt_of_safe limits.tokens, numberOfBigInt_of_safe limits.cost, ← requests,
      ← tokens, ← cost]
  exact ⟨List.map_congr_left (fun row mem => (all row mem).1) |>.trans (List.map_id _),
    fun row mem => (all row mem).2⟩

/-- A rollup that agrees with the ledger, has no empty row and stays in the safe range. -/
structure Settled (db : CostLedgerDb) : Prop where
  agrees : db.Agrees
  counted : ∀ rollup ∈ db.rollup.values, 0 < rollup.totalRequests
  safe : ∀ rollup ∈ db.rollup.values, rollup.Safe

theorem Settled.of_same {db after : CostLedgerDb} (settled : Settled db)
    (same : ∀ k, after.rollup.get? k = db.rollup.get? k) (ledger : after.ledger = db.ledger) :
    Settled after := by
  have rows := CostLedgerDb.sameRollup same
  refine ⟨?_, fun rollup mem => settled.counted rollup ((rows rollup).mp mem),
    fun rollup mem => settled.safe rollup ((rows rollup).mp mem)⟩
  have agrees := CostLedgerDb.agrees_iff.mp settled.agrees
  rw [CostLedgerDb.agrees_iff]
  intro k
  have tallies := agrees k
  unfold CostLedgerDb.TalliesAt CostLedgerDb.booked at tallies ⊢
  rw [same, ledger]
  exact tallies

/-- The rows a batch inserts for a settled rollup are those it deletes. -/
theorem Settled.find?_aggregate {db : CostLedgerDb} (settled : Settled db) {tenantId dayStr : String}
    {k : RollupKey} (here : k.tenantId = trim tenantId ∧ k.day = dayStr) :
    (((aggregate db (trim tenantId) dayStr).map (asRollup tenantId dayStr)).find? fun row =>
      row.key = k) = db.rollup.get? k := by
  have current : Current db (trim tenantId) dayStr (aggregate db (trim tenantId) dayStr) :=
    ⟨fun _ mem => mem, fun _ mem => mem⟩
  have inserted := find?_current current here
  have tallies := CostLedgerDb.agrees_iff.mp settled.agrees k
  unfold CostLedgerDb.TalliesAt at tallies
  cases stored : db.rollup.get? k with
  | some rollup =>
    rw [stored] at tallies
    obtain ⟨mem, keyed⟩ := IndexedMap.get?_some stored
    split at inserted
    case h_1 row found =>
      obtain ⟨same, totals, -⟩ := inserted
      rw [found, DailySpendRollup.ext (same.trans keyed.symm) (totals.trans tallies.symm)]
    case h_2 =>
      have nothing : rollup.totals = 0 := tallies.trans (Aggregate.total_absent inserted)
      have requests := settled.counted rollup mem
      have zero : rollup.totalRequests = 0 := congrArg Prod.fst nothing
      omega
  | none =>
    rw [stored] at tallies
    split at inserted
    case h_1 =>
      obtain ⟨-, -, event, mem, keyed⟩ := inserted
      exact absurd keyed (tallies event mem)
    case h_2 absent => exact absent

section

variable [DateParser]

theorem reconcile_refused {tenantId : String} {day : DateInput} {e : RepositoryError}
    (refused : checkedDay tenantId day = .error e) (db : CostLedgerDb) :
    reconcileDailyRollupFromLedger db tenantId day = .error (.input e) := by
  rw [reconcileDailyRollupFromLedger, selectAggregate, refused]
  rfl

/-- A reconciliation of a settled rollup succeeds and changes no row. -/
theorem Settled.reconcile {db : CostLedgerDb} (settled : Settled db) {tenantId dayStr : String}
    {day : DateInput} (checked : checkedDay tenantId day = .ok dayStr) :
    ∃ after, reconcileDailyRollupFromLedger db tenantId day =
        .ok (after, (aggregate db (trim tenantId) dayStr).map (asRollup tenantId dayStr)) ∧
      after.ledger = db.ledger ∧ ∀ k, after.rollup.get? k = db.rollup.get? k := by
  obtain ⟨read, safe⟩ := read_aggregate settled.agrees settled.safe (trim tenantId) dayStr
  have distinct := nodup_aggregate db (trim tenantId) dayStr
  have selected : selectAggregate db tenantId day =
      .ok (dayStr, aggregate db (trim tenantId) dayStr) := by
    rw [selectAggregate, checked]
    simp only [read]
  let rollups := (aggregate db (trim tenantId) dayStr).map (asRollup tenantId dayStr)
  have ok : reconcileDailyRollupFromLedger db tenantId day =
      .ok ({ db with rollup := (deleteRollup db.rollup (trim tenantId) dayStr).setAll rollups },
        rollups) := by
    rw [reconcileDailyRollupFromLedger, selected]
    exact rewriteRollup_ok.mpr ⟨safe, distinct, rfl, rfl⟩
  refine ⟨_, ok, rfl, ?_⟩
  intro k
  rw [get?_rewritten db tenantId dayStr distinct]
  split
  case isTrue here => exact settled.find?_aggregate here
  case isFalse => rfl

/-- A reconciliation of a settled rollup leaves it as it is, whatever it is asked for. -/
theorem Settled.afterReconcile {db : CostLedgerDb} (settled : Settled db) (tenantId : String)
    (day : DateInput) :
    (afterReconcile db tenantId day).ledger = db.ledger ∧
      ∀ k, (afterReconcile db tenantId day).rollup.get? k = db.rollup.get? k := by
  cases checked : checkedDay tenantId day with
  | error e =>
    rw [CostLedgerRepository.afterReconcile, reconcile_refused checked]
    exact ⟨rfl, fun _ => rfl⟩
  | ok dayStr =>
    obtain ⟨after, ok, same⟩ := settled.reconcile checked
    rw [CostLedgerRepository.afterReconcile, ok]
    exact same

/-- What a reconciliation returns depends on the ledger alone. -/
theorem Settled.returns_same {db other : CostLedgerDb} (settled : Settled db)
    (settled_other : Settled other) (ledger : other.ledger = db.ledger) (tenantId : String)
    (day : DateInput) :
    (reconcileDailyRollupFromLedger other tenantId day).map Prod.snd =
      (reconcileDailyRollupFromLedger db tenantId day).map Prod.snd := by
  cases checked : checkedDay tenantId day with
  | error e => rw [reconcile_refused checked, reconcile_refused checked]
  | ok dayStr =>
    obtain ⟨_, ok, -⟩ := settled.reconcile checked
    obtain ⟨_, ok_other, -⟩ := settled_other.reconcile checked
    have aggregates : aggregate other (trim tenantId) dayStr = aggregate db (trim tenantId) dayStr := by
      rw [aggregate, aggregate, ledger]
    rw [ok, ok_other, aggregates]
    rfl

variable [NumberText]

/-- After any recordings from an empty database, with totals in the safe range, reconciling
any tenant and day changes no row of the rollup, and a second time returns the same rows. -/
theorem reconcile_identity (calls : List RecordCall) (tenantId : String) (day : DateInput)
    (safe : ∀ rollup ∈ (calls.foldl record CostLedgerDb.empty).rollup.values, rollup.Safe) :
    let db := calls.foldl record CostLedgerDb.empty
    let once := afterReconcile db tenantId day
    let twice := afterReconcile once tenantId day
    once.SameRollup db ∧ twice.SameRollup once ∧
      (reconcileDailyRollupFromLedger once tenantId day).map Prod.snd =
        (reconcileDailyRollupFromLedger db tenantId day).map Prod.snd ∧
      ∀ dayStr, isBlank tenantId = false → formatCalendarDay day = .ok dayStr →
        (reconcileDailyRollupFromLedger db tenantId day).map Prod.fst = .ok once := by
  intro db once twice
  have recorded := recorded_empty.recordAll calls
  have settled : Settled db := ⟨recorded.agrees safe, recorded.counted, safe⟩
  obtain ⟨ledger, rollup⟩ := settled.afterReconcile tenantId day
  have again : Settled once := settled.of_same rollup ledger
  obtain ⟨-, rollup_again⟩ := again.afterReconcile tenantId day
  refine ⟨CostLedgerDb.sameRollup rollup, CostLedgerDb.sameRollup rollup_again,
    settled.returns_same again ledger tenantId day, ?_⟩
  intro dayStr tenant formatted
  have checked : checkedDay tenantId day = .ok dayStr := by
    rw [checkedDay, validateTenantId, tenant, formatted]
    rfl
  obtain ⟨after, ok, -⟩ := settled.reconcile checked
  simp only [once, CostLedgerRepository.afterReconcile, ok]
  rfl

end

/-! ## Two recordings -/

@[reducible] def isoDates : DateParser := ⟨fun _ => none⟩

def acmeInput : CostLedgerEventInput where
  id := none
  requestId := "req_1"
  tenantId := "acme"
  keyId := "key_1"
  provider := "openai"
  modelId := "gpt-4o"
  promptTokens := some (.finite 12)
  completionTokens := some (.finite 30)
  cachedTokens := none
  reasoningTokens := none
  costMicrodollars := .bigint 500
  latencyMs := none
  statusCode := 200
  createdAt := none

/-- 1970-01-02. -/
def secondDay : Time := ⟨86400000, by decide⟩

def acmeCalls : List RecordCall := [⟨acmeInput, "evt_1", secondDay⟩, ⟨acmeInput, "evt_2", secondDay⟩]

instance (rollup : DailySpendRollup) : Decidable rollup.Safe :=
  decidable_of_iff (isSafeInteger rollup.totalRequests = true ∧
    isSafeInteger rollup.totalTokens = true ∧ isSafeInteger rollup.totalCostMicrodollars = true)
    ⟨fun ⟨requests, tokens, cost⟩ => ⟨requests, tokens, cost⟩,
      fun ⟨requests, tokens, cost⟩ => ⟨requests, tokens, cost⟩⟩

section

attribute [local instance] isoDates integerText

theorem reconcile_identity_acme :
    (afterReconcile (acmeCalls.foldl record CostLedgerDb.empty) "acme"
      (.text "1970-01-02")).SameRollup (acmeCalls.foldl record CostLedgerDb.empty) :=
  (reconcile_identity acmeCalls "acme" (.text "1970-01-02") (by decide)).1

end

end CostLedgerRepository

end KeyCollective
