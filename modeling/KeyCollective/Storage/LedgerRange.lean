import KeyCollective.Storage.Reconciliation
import KeyCollective.Storage.Timestamps

/-!
# Ranges of the ledger

A creation time is stored as ISO text, and a range is compared with it as text. A bound that is
a text is not brought into the same form, so it bounds by its digits and not by its instant.
-/

namespace KeyCollective

inductive SortOrder where
  | asc
  | desc
deriving DecidableEq

/-- `until'` is the source's `until`. Limits and offsets are integers. -/
structure ListCostEventsOptions where
  since : Option DateInput := none
  until' : Option DateInput := none
  provider : Option String := none
  modelId : Option String := none
  keyId : Option String := none
  limit : Option Int := none
  offset : Option Int := none
  order : Option SortOrder := none
deriving DecidableEq

inductive ListFailure where
  | repository (error : RepositoryError)
  /-- The `RangeError` of `toISOString`. -/
  | range (message : String)
deriving DecidableEq

/-- `a <= b` of two texts, in the database's binary order. -/
def textLe (a b : String) : Bool := a.toList ≤ b.toList

namespace CostLedgerRepository

/-! ## Queries -/

/-- A bound as the statement is given it; none when the option is missing or empty. -/
def boundText : Option DateInput → Except ListFailure (Option String)
  | none | some (.text "") => .ok none
  | some (.text s) => .ok (some s)
  | some (.date (some t)) => .ok (some t.toISOString)
  | some (.date none) => .error (.range "Invalid time value")

/-- `tenant_id = ?`, `created_at >= ?` and `created_at <= ?`. -/
def selectEvents (db : CostLedgerDb) (tenantId : String) (since until' : Option String) :
    List CostLedgerDbRow :=
  db.ledger.values.filter fun row =>
    row.event.tenantId = trim tenantId ∧ since.all (textLe · row.createdAt) ∧
      until'.all (textLe row.createdAt ·)

/-- A filter that is given and not empty. -/
def matchesText (filter : Option String) (value : String) : Bool :=
  match filter with
  | none | some "" => true
  | some s => value = trim s

/-- The events of a listing before its `ORDER BY`, `LIMIT` and `OFFSET`. -/
def listSelection (db : CostLedgerDb) (tenantId : String) (options : ListCostEventsOptions) :
    Except ListFailure (List CostLedgerDbRow) := do
  (validateTenantId tenantId).mapError .repository
  let since ← boundText options.since
  let until' ← boundText options.until'
  pure <| (selectEvents db tenantId since until').filter fun row =>
    matchesText options.provider row.event.provider ∧
      matchesText options.modelId row.event.modelId ∧ matchesText options.keyId row.event.keyId

/-- `ORDER BY created_at`; rows of one time may come in any order, here as they are stored. -/
def orderEvents (order : SortOrder) (rows : List CostLedgerDbRow) : List CostLedgerDbRow :=
  match order with
  | .asc => rows.mergeSort fun a b => textLe a.createdAt b.createdAt
  | .desc => rows.mergeSort fun a b => textLe b.createdAt a.createdAt

def listEvents (db : CostLedgerDb) (tenantId : String) (options : ListCostEventsOptions) :
    Except ListFailure (List CostLedgerDbRow) := do
  let rows ← listSelection db tenantId options
  let limit := max 1 (min (options.limit.getD 100) 1000)
  let offset := options.offset.getD 0
  pure (((orderEvents (options.order.getD .desc) rows).drop offset.toNat).take limit.toNat)

def countEvents (db : CostLedgerDb) (tenantId : String) (since until' : Option DateInput) :
    Except ListFailure Nat := do
  (validateTenantId tenantId).mapError .repository
  let since ← boundText since
  let until' ← boundText until'
  pure (selectEvents db tenantId since until').length

/-- A selection that fits on the first page is listed whole. -/
theorem listEvents_perm {db : CostLedgerDb} {tenantId : String} {options : ListCostEventsOptions}
    {rows : List CostLedgerDbRow} (selected : listSelection db tenantId options = .ok rows)
    (first : options.offset.getD 0 ≤ 0)
    (few : (rows.length : Int) ≤ max 1 (min (options.limit.getD 100) 1000)) :
    ∃ page, listEvents db tenantId options = .ok page ∧ page.Perm rows := by
  have ordered : (orderEvents (options.order.getD .desc) rows).Perm rows := by
    unfold orderEvents
    split <;> exact List.mergeSort_perm _ _
  refine ⟨orderEvents (options.order.getD .desc) rows, ?_, ordered⟩
  have all : (orderEvents (options.order.getD .desc) rows).length ≤
      (max 1 (min (options.limit.getD 100) 1000)).toNat := by
    rw [ordered.length_eq]
    omega
  rw [listEvents, selected]
  change Except.ok _ = _
  rw [Int.toNat_of_nonpos first, List.drop_zero, List.take_of_length_le all]

/-! ## Recordings without a rollup -/

section

variable [DateParser] [NumberText]

/-- What is checked of an input: its creation time and its cost. -/
def checkedEvent (input : CostLedgerEventInput) (now : Time) :
    Except RepositoryError (String × Int) := do
  validateEventInput input
  let createdAt ← normalizeCreatedAt input.createdAt now
  let cost ← validateMicrodollars input.costMicrodollars
  pure (createdAt, cost)

/-- The row of an event; `none` is a value that a column does not take. -/
def eventRow (input : CostLedgerEventInput) (uuid createdAt : String) (stored : Int) :
    Option CostLedgerDbRow :=
  (boundEvent input stored).map fun event => ⟨input.id.getD uuid, event, createdAt⟩

/-- The cost is made an integer of the database inside the statement's `try`. -/
def recordEvent (db : CostLedgerDb) (call : RecordCall) :
    Except CostLedgerFailure (CostLedgerDb × CostLedgerDbRow) :=
  match checkedEvent call.input call.now with
  | .error e => .error (.input e)
  | .ok (createdAt, cost) =>
    match (Books.toSqlInteger cost).toOption.bind fun stored =>
        (eventRow call.input call.uuid createdAt stored).bind fun row =>
          (insertEvent db row).map fun db => (db, row) with
    | none => .error (.database "Failed to record cost ledger event")
    | some result => .ok result

/-- What the statement of an event in a batch is bound to. -/
def bindEvent (call : RecordCall) : Except RepositoryError (Option CostLedgerDbRow) := do
  let (createdAt, cost) ← checkedEvent call.input call.now
  let stored ← Books.toSqlInteger cost
  pure (eventRow call.input call.uuid createdAt stored)

def recordBatch (db : CostLedgerDb) (calls : List RecordCall) :
    Except CostLedgerFailure (CostLedgerDb × List CostLedgerDbRow) :=
  match calls.mapM bindEvent with
  | .error e => .error (.input e)
  | .ok bound =>
    match (bound.mapM id).bind fun rows =>
      (rows.foldlM insertEvent db).map fun db => (db, rows) with
    | none => .error (.database s!"Failed to record batch of {calls.length} cost ledger events")
    | some result => .ok result

/-! ## Ledgers that the repository writes -/

inductive LedgerCall where
  | recordEvent (call : RecordCall)
  | recordBatch (calls : List RecordCall)
  | recordEventWithRollup (call : RecordCall)
  | reconcileDailyRollupFromLedger (tenantId : String) (day : DateInput)

/-- The database after a call; one that throws changes nothing. -/
def applyCall (db : CostLedgerDb) : LedgerCall → CostLedgerDb
  | .recordEvent call =>
    match recordEvent db call with
    | .ok (after, _) => after
    | .error _ => db
  | .recordBatch calls =>
    match recordBatch db calls with
    | .ok (after, _) => after
    | .error _ => db
  | .recordEventWithRollup call => record db call
  | .reconcileDailyRollupFromLedger tenantId day => afterReconcile db tenantId day

/-- An event was created at a time, and has its ISO text. -/
def CreatedAt (row : CostLedgerDbRow) : Prop := ∃ t : Time, row.createdAt = t.toISOString

def Dated (db : CostLedgerDb) : Prop := ∀ row ∈ db.ledger.values, CreatedAt row

open Books (except_bind_ok)

theorem checkedEvent_dated {input : CostLedgerEventInput} {now : Time} {createdAt : String}
    {cost : Int} (checked : checkedEvent input now = .ok (createdAt, cost)) :
    ∃ t : Time, createdAt = t.toISOString := by
  obtain ⟨⟨⟩, -, named⟩ := except_bind_ok.mp checked
  obtain ⟨text, normalized, costed⟩ := except_bind_ok.mp named
  obtain ⟨amount, -, same⟩ := except_bind_ok.mp costed
  cases same
  exact normalizeCreatedAt_ok normalized

omit [DateParser] [NumberText] in
theorem eventRow_createdAt {input : CostLedgerEventInput} {uuid createdAt : String} {stored : Int}
    {row : CostLedgerDbRow} (bound : eventRow input uuid createdAt stored = some row) :
    row.createdAt = createdAt := by
  obtain ⟨event, -, rfl⟩ := Option.map_eq_some_iff.mp bound
  rfl

theorem bindRecording_dated {input : CostLedgerEventInput} {uuid : String} {now : Time}
    {row : CostLedgerDbRow} {excluded : DailySpendRollup}
    (bound : bindRecording input uuid now = .ok (some (row, excluded))) : CreatedAt row := by
  obtain ⟨⟨⟩, -, named⟩ := except_bind_ok.mp bound
  obtain ⟨createdAt, normalized, dated⟩ := except_bind_ok.mp named
  obtain ⟨day, -, costed⟩ := except_bind_ok.mp dated
  obtain ⟨cost, -, costed⟩ := except_bind_ok.mp costed
  obtain ⟨stored, -, counted⟩ := except_bind_ok.mp costed
  obtain ⟨event, -, same⟩ := Option.map_eq_some_iff.mp (Except.ok.inj counted)
  cases same
  exact normalizeCreatedAt_ok normalized

omit [DateParser] [NumberText] in
theorem Dated.insertEvent {db after : CostLedgerDb} (dated : Dated db) {row : CostLedgerDbRow}
    (created : CreatedAt row)
    (inserted : CostLedgerRepository.insertEvent db row = some after) : Dated after := by
  unfold CostLedgerRepository.insertEvent at inserted
  split at inserted
  case isTrue => cases inserted
  case isFalse =>
    cases inserted
    intro other mem
    rcases IndexedMap.mem_set mem with rfl | mem
    · exact created
    · exact dated other mem

omit [DateParser] [NumberText] in
theorem Dated.insertEvents {db after : CostLedgerDb} (dated : Dated db)
    {rows : List CostLedgerDbRow} (created : ∀ row ∈ rows, CreatedAt row)
    (inserted : rows.foldlM CostLedgerRepository.insertEvent db = some after) : Dated after := by
  induction rows generalizing db with
  | nil =>
    cases inserted
    exact dated
  | cons row rest ih =>
    rw [List.foldlM_cons] at inserted
    obtain ⟨next, first, later⟩ := Option.bind_eq_some_iff.mp inserted
    exact ih (dated.insertEvent (created row List.mem_cons_self) first)
      (fun row mem => created row (List.mem_cons_of_mem _ mem)) later

omit [DateParser] [NumberText] in
theorem mem_of_mapM {bound : List (Option CostLedgerDbRow)} {rows : List CostLedgerDbRow}
    (taken : bound.mapM id = some rows) : ∀ row ∈ rows, some row ∈ bound := by
  induction bound generalizing rows with
  | nil =>
    cases taken
    exact fun row mem => absurd mem List.not_mem_nil
  | cons first rest ih =>
    rw [List.mapM_cons] at taken
    obtain ⟨row', here, later⟩ := Option.bind_eq_some_iff.mp taken
    obtain ⟨others, taken_others, same⟩ := Option.bind_eq_some_iff.mp later
    cases same
    intro row mem
    rcases List.mem_cons.mp mem with rfl | mem
    · rw [show first = some row from here]
      exact List.mem_cons_self
    · exact List.mem_cons_of_mem _ (ih taken_others row mem)

/-- Each row of a batch is that of one of its events. -/
theorem bindEvents_dated {calls : List RecordCall} {bound : List (Option CostLedgerDbRow)}
    (ok : calls.mapM bindEvent = .ok bound) : ∀ row, some row ∈ bound → CreatedAt row := by
  induction calls generalizing bound with
  | nil =>
    cases ok
    exact fun row mem => absurd mem List.not_mem_nil
  | cons call rest ih =>
    rw [List.mapM_cons] at ok
    obtain ⟨first, bound_first, later⟩ := except_bind_ok.mp ok
    obtain ⟨others, bound_others, same⟩ := except_bind_ok.mp later
    cases same
    intro row mem
    rcases List.mem_cons.mp mem with here | mem
    · obtain ⟨⟨createdAt, cost⟩, checked, costed⟩ := except_bind_ok.mp bound_first
      obtain ⟨stored, -, same⟩ := except_bind_ok.mp costed
      obtain ⟨t, dated⟩ := checkedEvent_dated checked
      have row_eq : eventRow call.input call.uuid createdAt stored = some row :=
        (Except.ok.inj same).trans here.symm
      exact ⟨t, (eventRow_createdAt row_eq).trans dated⟩
    · exact ih bound_others row mem

theorem Dated.recordEvent {db after : CostLedgerDb} (dated : Dated db) {call : RecordCall}
    {row : CostLedgerDbRow}
    (ok : CostLedgerRepository.recordEvent db call = .ok (after, row)) : Dated after := by
  unfold CostLedgerRepository.recordEvent at ok
  split at ok
  case h_1 => cases ok
  case h_2 createdAt cost checked =>
    obtain ⟨t, at_time⟩ := checkedEvent_dated checked
    split at ok
    case h_1 => cases ok
    case h_2 result done =>
      cases ok
      obtain ⟨stored, -, bound⟩ := Option.bind_eq_some_iff.mp done
      obtain ⟨row', event, written⟩ := Option.bind_eq_some_iff.mp bound
      obtain ⟨db', inserted, same⟩ := Option.map_eq_some_iff.mp written
      cases same
      exact dated.insertEvent ⟨t, (eventRow_createdAt event).trans at_time⟩ inserted

theorem Dated.recordBatch {db after : CostLedgerDb} (dated : Dated db) {calls : List RecordCall}
    {rows : List CostLedgerDbRow}
    (ok : CostLedgerRepository.recordBatch db calls = .ok (after, rows)) : Dated after := by
  unfold CostLedgerRepository.recordBatch at ok
  split at ok
  case h_1 => cases ok
  case h_2 bound events =>
    split at ok
    case h_1 => cases ok
    case h_2 result done =>
      cases ok
      obtain ⟨rows', taken, written⟩ := Option.bind_eq_some_iff.mp done
      obtain ⟨db', inserted, same⟩ := Option.map_eq_some_iff.mp written
      cases same
      exact dated.insertEvents
        (fun row mem => bindEvents_dated events row (mem_of_mapM taken row mem)) inserted

theorem Dated.recordEventWithRollup {db after : CostLedgerDb} (dated : Dated db)
    {input : CostLedgerEventInput} {uuid : String} {now : Time} {row : CostLedgerDbRow}
    (ok : CostLedgerRepository.recordEventWithRollup db input uuid now = .ok (after, row)) :
    Dated after := by
  unfold CostLedgerRepository.recordEventWithRollup at ok
  split at ok
  case h_1 => cases ok
  case h_2 bound statements =>
    split at ok
    case h_1 => cases ok
    case h_2 result done =>
      cases ok
      obtain ⟨⟨row', excluded⟩, rfl, written⟩ := Option.bind_eq_some_iff.mp done
      obtain ⟨db', inserted, same⟩ := Option.map_eq_some_iff.mp written
      cases same
      have stored : Dated db' := dated.insertEvent (bindRecording_dated statements) inserted
      exact stored

omit [NumberText] in
theorem ledger_afterReconcile (db : CostLedgerDb) (tenantId : String) (day : DateInput) :
    (afterReconcile db tenantId day).ledger = db.ledger := by
  unfold afterReconcile
  split
  case h_2 => rfl
  case h_1 after rows ok =>
    obtain ⟨⟨dayStr, aggregated⟩, -, rewritten⟩ := except_bind_ok.mp ok
    obtain ⟨-, -, -, rfl⟩ := rewriteRollup_ok.mp rewritten
    rfl

theorem Dated.applyCall {db : CostLedgerDb} (dated : Dated db) (call : LedgerCall) :
    Dated (applyCall db call) := by
  cases call with
  | recordEvent call =>
    simp only [CostLedgerRepository.applyCall]
    split
    case h_1 ok => exact dated.recordEvent ok
    case h_2 => exact dated
  | recordBatch calls =>
    simp only [CostLedgerRepository.applyCall]
    split
    case h_1 ok => exact dated.recordBatch ok
    case h_2 => exact dated
  | recordEventWithRollup call =>
    simp only [CostLedgerRepository.applyCall, record]
    split
    case h_1 ok => exact dated.recordEventWithRollup ok
    case h_2 => exact dated
  | reconcileDailyRollupFromLedger tenantId day =>
    intro row mem
    simp only [CostLedgerRepository.applyCall, ledger_afterReconcile] at mem
    exact dated row mem

theorem dated_run (calls : List LedgerCall) :
    Dated (calls.foldl applyCall CostLedgerDb.empty) := by
  have all : ∀ db, Dated db → Dated (calls.foldl applyCall db) := by
    induction calls with
    | nil => exact fun _ dated => dated
    | cons call rest ih => exact fun db dated => ih _ (dated.applyCall call)
  exact all _ fun row mem => absurd mem List.not_mem_nil

end

end CostLedgerRepository

/-! ## Bounds -/

/-- A bound of a range: a `Date`, or the text of a timestamp. -/
inductive Bound where
  | date (t : Time)
  | text (stamp : IsoTimestamp)

namespace Bound

variable (bound : Bound)

def input : DateInput :=
  match bound with
  | date t => .date (some t)
  | text stamp => .text stamp.text

def stamp : IsoTimestamp :=
  match bound with
  | date t => t.stamp
  | text stamp => stamp

/-- The time a bound stands for, in milliseconds. -/
def instant : ℚ := bound.stamp.instant

end Bound

theorem IsoTimestamp.text_ne_empty (stamp : IsoTimestamp) : stamp.text ≠ "" := by
  intro empty
  have chars : stamp.chars = [] := by
    have lists := congrArg String.toList empty
    rwa [IsoTimestamp.text, String.toList_ofList] at lists
  have separator : '-' ∈ stamp.chars := by simp [IsoTimestamp.chars, dateChars]
  rw [chars] at separator
  cases separator

namespace CostLedgerRepository

/-- The tenant's events whose time is in a range of instants. -/
def eventsWithin (db : CostLedgerDb) (tenantId : String) (low high : ℚ) : List CostLedgerDbRow :=
  db.ledger.values.filter fun row =>
    row.event.tenantId = trim tenantId ∧
      (Time.ofISOString row.createdAt).any fun t => low ≤ t.ms ∧ t.ms ≤ high

/-- A range by digits and a range by instants have the same times of a row. -/
def Faithful (since until' : Bound) (row : CostLedgerDbRow) : Prop :=
  ∀ t : Time, row.createdAt = t.toISOString →
    ((since.stamp.firstSince ≤ t.position ∧ t.position < until'.stamp.pastUntil) ↔
      (since.instant ≤ t.ms ∧ t.ms ≤ until'.instant))

/-- Dates of the years 0 to 9999 find such a time where it is. -/
theorem faithful_dates {since until' : Time} (low : since.Plain) (high : until'.Plain)
    {row : CostLedgerDbRow} (plain : ∀ t : Time, row.createdAt = t.toISOString → t.Plain) :
    Faithful (.date since) (.date until') row := by
  intro t created
  have first : since.stamp.firstSince = toLex (YearForm.plain.rank, since.ms) :=
    since.stamp_spans.1.trans low.position
  have past : until'.stamp.pastUntil = toLex (YearForm.plain.rank, until'.ms + 1) := by
    rw [until'.stamp_spans.2, high.form, until'.place_eq high.1]
  simp only [Bound.instant, Bound.stamp, Time.instant_stamp, first, past,
    (plain t created).position, Prod.Lex.toLex_le_toLex, Prod.Lex.toLex_lt_toLex, lt_irrefl,
    false_or, true_and, Int.cast_le, Int.lt_add_one_iff]

theorem boundText_text {s : String} (some_text : s ≠ "") :
    boundText (some (.text s)) = .ok (some s) := by
  unfold boundText
  split
  case h_1 same => cases same
  case h_2 same =>
    cases same
    exact absurd rfl some_text
  case h_3 same =>
    cases same
    rfl
  case h_4 same => cases same
  case h_5 same => cases same

theorem boundText_bound (bound : Bound) :
    boundText (some bound.input) = .ok (some (String.ofList bound.stamp.chars)) := by
  cases bound with
  | date t =>
    rw [Bound.input, Bound.stamp, t.chars_stamp]
    rfl
  | text stamp => exact boundText_text stamp.text_ne_empty

/-- A range of texts takes the times between the digits of its bounds. -/
theorem textLe_iff (since until' : Bound) {row : CostLedgerDbRow} {t : Time}
    (created : row.createdAt = t.toISOString) :
    (textLe (String.ofList since.stamp.chars) row.createdAt = true ∧
        textLe row.createdAt (String.ofList until'.stamp.chars) = true) ↔
      since.stamp.firstSince ≤ t.position ∧ t.position < until'.stamp.pastUntil := by
  have low := (since.stamp.le_iff t).1
  have high := (until'.stamp.le_iff t).2
  simp [textLe, created, Time.toISOString, low, high]

/-- What a listing and a count find between two bounds. -/
theorem queries_eq (db : CostLedgerDb) {tenantId : String} (tenant : isBlank tenantId = false)
    (since until' : Bound) :
    let selected := selectEvents db tenantId (some (String.ofList since.stamp.chars))
      (some (String.ofList until'.stamp.chars))
    listSelection db tenantId { since := some since.input, until' := some until'.input } =
        .ok selected ∧
      countEvents db tenantId (some since.input) (some until'.input) = .ok selected.length := by
  have checked : validateTenantId tenantId = .ok () := by
    rw [validateTenantId, tenant]
    rfl
  constructor
  · rw [listSelection, checked]
    simp only [boundText_bound]
    change Except.ok _ = Except.ok _
    congr 1
    exact List.filter_eq_self.mpr fun _ _ => rfl
  · rw [countEvents, checked]
    simp only [boundText_bound]
    rfl

/-- In a ledger the repository has written, a range finds the tenant's events between two
instants just when for each of these events the digits of the bounds and their instants agree. -/
theorem range_by_instant_iff [DateParser] [NumberText] (calls : List LedgerCall)
    {tenantId : String} (tenant : isBlank tenantId = false) (since until' : Bound) :
    let db := calls.foldl applyCall CostLedgerDb.empty
    let within := eventsWithin db tenantId since.instant until'.instant
    (listSelection db tenantId { since := some since.input, until' := some until'.input } =
          .ok within ∧
        countEvents db tenantId (some since.input) (some until'.input) = .ok within.length) ↔
      ∀ row ∈ db.ledger.values, row.event.tenantId = trim tenantId → Faithful since until' row := by
  intro db within
  obtain ⟨listed, counted⟩ := queries_eq db tenant since until'
  rw [listed, counted]
  have read : ∀ (row : CostLedgerDbRow) (t : Time), row.createdAt = t.toISOString →
      ((Time.ofISOString row.createdAt).any fun t =>
        decide (since.instant ≤ t.ms ∧ t.ms ≤ until'.instant)) =
          decide (since.instant ≤ t.ms ∧ t.ms ≤ until'.instant) := by
    intro row t created
    rw [created, t.ofISOString_toISOString]
    rfl
  constructor
  · rintro ⟨same, -⟩ row mem own t created
    have rows := Except.ok.inj same
    have instants := read row t created
    have selected := congrArg (row ∈ ·) rows
    simp only [selectEvents, within, eventsWithin, List.mem_filter, mem, own, instants, true_and,
      Option.all_some, decide_eq_true_eq, textLe_iff since until' created] at selected
    exact selected.to_iff
  · intro faithful
    have rows : selectEvents db tenantId (some (String.ofList since.stamp.chars))
        (some (String.ofList until'.stamp.chars)) = within := by
      refine List.filter_congr fun row mem => ?_
      obtain ⟨t, created⟩ := dated_run calls row mem
      have instants := read row t created
      rw [decide_eq_decide]
      refine and_congr_right fun own => ?_
      rw [instants, decide_eq_true_iff, ← faithful row mem own t created]
      exact textLe_iff since until' created
    rw [rows]
    exact ⟨rfl, rfl⟩

section

attribute [local instance] isoDates integerText

/-- The event of 1970-01-02T00:00:00.000Z. -/
def acmeEvent : LedgerCall := .recordEvent ⟨acmeInput, "evt_1", secondDay⟩

/-- The listing is the page of the events of that very instant. -/
theorem range_by_instant_date :
    ∃ page, listEvents ([acmeEvent].foldl applyCall CostLedgerDb.empty) "acme"
        { since := some (.date secondDay), until' := some (.date secondDay) } = .ok page ∧
      page.Perm (eventsWithin ([acmeEvent].foldl applyCall CostLedgerDb.empty) "acme"
        (secondDay.ms : ℤ) (secondDay.ms : ℤ)) := by
  have all : ∀ row ∈ ([acmeEvent].foldl applyCall CostLedgerDb.empty).ledger.values,
      row.createdAt = secondDay.toISOString := by
    decide
  have plain : secondDay.Plain := ⟨by decide, by decide⟩
  have faithful : ∀ row ∈ ([acmeEvent].foldl applyCall CostLedgerDb.empty).ledger.values,
      row.event.tenantId = trim "acme" → Faithful (.date secondDay) (.date secondDay) row := by
    intro row mem _
    refine faithful_dates plain plain fun t created => ?_
    have read := t.ofISOString_toISOString
    rw [← created, all row mem, secondDay.ofISOString_toISOString] at read
    exact Option.some.inj read ▸ plain
  have listed := ((range_by_instant_iff [acmeEvent] (show isBlank "acme" = false by decide)
    (.date secondDay) (.date secondDay)).mpr faithful).1
  rw [Bound.instant, Bound.stamp, secondDay.instant_stamp] at listed
  exact listEvents_perm listed (by decide) (by decide)

/-- `1970-01-02T00:00:00Z`. -/
def wholeSecond : IsoTimestamp where
  form := .plain
  date := ⟨1970, 1, 2⟩
  clock := some ⟨0, 0, .second 0, .utc⟩
  valid := ⟨by decide, by decide⟩
  writes := ⟨by decide, by decide⟩
  validClock _ same := by
    cases same
    exact ⟨by decide, by decide, Nat.zero_lt_succ 59⟩

/-- A bound without milliseconds comes behind the event of its own instant. -/
theorem range_misses_instant :
    let db := [acmeEvent].foldl applyCall CostLedgerDb.empty
    wholeSecond.text = "1970-01-02T00:00:00Z" ∧
      db.ledger.values.map (·.createdAt) = ["1970-01-02T00:00:00.000Z"] ∧
      (eventsWithin db "acme" (Bound.text wholeSecond).instant
        (Bound.text wholeSecond).instant).length = 1 ∧
      listSelection db "acme"
          { since := some (.text wholeSecond.text), until' := some (.text wholeSecond.text) } =
        .ok [] ∧
      countEvents db "acme" (some (.text wholeSecond.text)) (some (.text wholeSecond.text)) =
        .ok 0 := by
  decide +kernel

end

end CostLedgerRepository

end KeyCollective
