import KeyCollective.Date
import KeyCollective.Lib.Aggregate
import KeyCollective.Number
import KeyCollective.Worker.Ledger

/-!
# The cost ledger's repository

Events are booked in `cost_ledger` and, per tenant, day, provider and model, in
`daily_spend_rollup`. A batch is atomic. The day of a stored event is the first ten
characters of its creation time.
-/

namespace KeyCollective

/-- `bigint | number`. -/
inductive Microdollars where
  | bigint (n : Int)
  | number (x : Number)
deriving DecidableEq

structure CostLedgerEventInput where
  id : Option String
  requestId : String
  tenantId : String
  keyId : String
  provider : String
  modelId : String
  promptTokens : Option Number
  completionTokens : Option Number
  cachedTokens : Option Number
  reasoningTokens : Option Number
  costMicrodollars : Microdollars
  latencyMs : Option Number
  statusCode : Nat
  createdAt : Option DateInput
deriving DecidableEq

structure CostLedgerDbRow where
  id : String
  event : CostLedgerEvent
  createdAt : String
deriving DecidableEq

structure DailySpendRollup where
  tenantId : String
  day : String
  provider : String
  modelId : String
  totalRequests : Int
  totalTokens : Int
  totalCostMicrodollars : Int
deriving DecidableEq

structure ReconcileRollupDbRow where
  provider : String
  modelId : String
  totalRequests : Int
  totalTokens : Int
  totalCostMicrodollars : Int
deriving DecidableEq

/-- The primary key of `daily_spend_rollup`. -/
structure RollupKey where
  tenantId : String
  day : String
  provider : String
  modelId : String
deriving DecidableEq

def DailySpendRollup.key (rollup : DailySpendRollup) : RollupKey :=
  ⟨rollup.tenantId, rollup.day, rollup.provider, rollup.modelId⟩

namespace CostLedgerDbRow

variable (row : CostLedgerDbRow)

/-- `substr(created_at, 1, 10)`. -/
def day : String := sliceDay row.createdAt

/-- `prompt_tokens + completion_tokens + reasoning_tokens`. -/
def tokens : Int := row.event.promptTokens + row.event.completionTokens + row.event.reasoningTokens

/-- `provider, model_id`. -/
def group : String × String := (row.event.provider, row.event.modelId)

end CostLedgerDbRow

structure CostLedgerDb where
  ledger : IndexedMap CostLedgerDbRow.id
  rollup : IndexedMap DailySpendRollup.key

inductive CostLedgerFailure where
  /-- The input was refused before a statement ran. -/
  | input (error : RepositoryError)
  /-- `CostLedgerError`. The database's own text is left out. -/
  | database (message : String)
deriving DecidableEq

namespace CostLedgerRepository

variable [DateParser] [NumberText]

def isCalendarDay (s : String) : Bool :=
  match s.toList with
  | [y₁, y₂, y₃, y₄, '-', m₁, m₂, '-', d₁, d₂] =>
    [y₁, y₂, y₃, y₄, m₁, m₂, d₁, d₂].all Char.isDigit
  | _ => false

def formatCalendarDay : DateInput → Except RepositoryError String
  | .date none => .error (.invalidEvent "Invalid Date instance provided")
  | .date (some t) => .ok (sliceDay t.toISOString)
  | .text s =>
    if isCalendarDay (trim s) then .ok (trim s)
    else match parseDate (trim s) with
      | some t => .ok (sliceDay t.toISOString)
      | none => .error (.invalidEvent s!"Invalid date format for calendar day: '{s}'")

def normalizeCreatedAt (createdAt : Option DateInput) (now : Time) :
    Except RepositoryError String :=
  match createdAt with
  | none | some (.text "") => .ok now.toISOString
  | some (.date none) => .error (.invalidEvent "Invalid createdAt Date provided")
  | some (.date (some t)) => .ok t.toISOString
  | some (.text s) =>
    match parseDate s with
    | some t => .ok t.toISOString
    | none => .error (.invalidEvent s!"Invalid createdAt timestamp: '{s}'")

def validateMicrodollars : Microdollars → Except RepositoryError Int
  | .bigint n => Books.validateMicrodollars n
  | .number (.finite value) =>
    if value.den ≠ 1 then
      .error (.invalidEvent ("costMicrodollars must be an integer (floating point not allowed for " ++
        s!"financials): {Number.text (.finite value)}"))
    else if value < 0 then
      .error (.invalidEvent s!"costMicrodollars cannot be negative: {Number.text (.finite value)}")
    else .ok value.num
  | .number x =>
    .error (.invalidEvent s!"costMicrodollars must be a finite integer, got: {x.text}")

def validateTenantId (tenantId : String) : Except RepositoryError Unit :=
  if isBlank tenantId then .error (.tenantIsolation "Tenant ID must be a non-empty string")
  else .ok ()

/-- `Math.max(0, Math.trunc(x ?? 0))`, as a column takes it. -/
def count (x : Option Number) : Option Int := (x.getD (.finite 0)).trunc.max0.column

/-- The event of an input, with the numbers it comes to. -/
def eventOf (input : CostLedgerEventInput) (prompt completion cached reasoning cost latency : Int) :
    CostLedgerEvent where
  requestId := input.requestId
  tenantId := input.tenantId
  keyId := input.keyId
  provider := input.provider
  modelId := input.modelId
  promptTokens := prompt
  completionTokens := completion
  cachedTokens := cached
  reasoningTokens := reasoning
  costMicrodollars := cost
  latencyMs := latency
  statusCode := input.statusCode

def validateEventInput (input : CostLedgerEventInput) : Except RepositoryError Unit :=
  Books.validateEventInput (eventOf input 0 0 0 0 0 0)

/-- The event's numbers as the columns take them. -/
def boundEvent (input : CostLedgerEventInput) (stored : Int) : Option CostLedgerEvent := do
  let prompt ← count input.promptTokens
  let completion ← count input.completionTokens
  let cached ← count input.cachedTokens
  let reasoning ← count input.reasoningTokens
  let latency ← count input.latencyMs
  pure (Books.eventRow (eventOf input prompt completion cached reasoning stored latency) stored)

/-- `promptTokens + completionTokens + reasoningTokens`, a number. -/
def totalTokens (event : CostLedgerEvent) : Int :=
  numberOfBigInt (numberOfBigInt (event.promptTokens + event.completionTokens) +
    event.reasoningTokens)

/-- What the two statements of a recording are bound to: the ledger's row and the rollup's
increment. `none` is a value that a column does not take. -/
def bindRecording (input : CostLedgerEventInput) (uuid : String) (now : Time) :
    Except RepositoryError (Option (CostLedgerDbRow × DailySpendRollup)) := do
  validateEventInput input
  let createdAt ← normalizeCreatedAt input.createdAt now
  let day ← formatCalendarDay (.text createdAt)
  let cost ← validateMicrodollars input.costMicrodollars
  let stored ← Books.toSqlInteger cost
  pure <| (boundEvent input stored).map fun event =>
    (⟨input.id.getD uuid, event, createdAt⟩,
      ⟨event.tenantId, day, event.provider, event.modelId, 1, totalTokens event, stored⟩)

/-- `INSERT INTO cost_ledger`. -/
def insertEvent (db : CostLedgerDb) (row : CostLedgerDbRow) : Option CostLedgerDb :=
  if db.ledger.has row.id then none else some { db with ledger := db.ledger.set row }

/-- `INSERT INTO daily_spend_rollup … ON CONFLICT … DO UPDATE`. -/
def upsertRollup (db : CostLedgerDb) (excluded : DailySpendRollup) : CostLedgerDb :=
  { db with rollup := db.rollup.set <|
      match db.rollup.get? excluded.key with
      | none => excluded
      | some rollup =>
        { rollup with
          totalRequests := rollup.totalRequests + excluded.totalRequests
          totalTokens := rollup.totalTokens + excluded.totalTokens
          totalCostMicrodollars :=
            rollup.totalCostMicrodollars + excluded.totalCostMicrodollars } }

def recordEventWithRollup (db : CostLedgerDb) (input : CostLedgerEventInput) (uuid : String)
    (now : Time) : Except CostLedgerFailure (CostLedgerDb × CostLedgerDbRow) :=
  match bindRecording input uuid now with
  | .error e => .error (.input e)
  | .ok bound =>
    match bound.bind fun (row, excluded) =>
        (insertEvent db row).map fun db => (upsertRollup db excluded, row) with
    | none => .error (.database "Failed to record cost ledger event with rollup")
    | some result => .ok result

/-- The aggregate of the ledger for a tenant and a day, `GROUP BY provider, model_id`. -/
def aggregate (db : CostLedgerDb) (tenantId day : String) : List ReconcileRollupDbRow :=
  let rows := db.ledger.values.filter fun row => row.event.tenantId = tenantId ∧ row.day = day
  (Aggregate.groups CostLedgerDbRow.group rows).map fun group =>
    { provider := group.1
      modelId := group.2
      totalRequests := Aggregate.total CostLedgerDbRow.group (fun _ => 1) rows group
      totalTokens := Aggregate.total CostLedgerDbRow.group CostLedgerDbRow.tokens rows group
      totalCostMicrodollars :=
        Aggregate.total CostLedgerDbRow.group (·.event.costMicrodollars) rows group }

/-- A row of the aggregate as numbers. -/
def readRow (row : ReconcileRollupDbRow) : ReconcileRollupDbRow where
  provider := row.provider
  modelId := row.modelId
  totalRequests := numberOfBigInt row.totalRequests
  totalTokens := numberOfBigInt row.totalTokens
  totalCostMicrodollars := numberOfBigInt row.totalCostMicrodollars

/-- The checks of a reconciliation: the day, when the tenant and the day are valid. -/
def checkedDay (tenantId : String) (day : DateInput) : Except RepositoryError String := do
  validateTenantId tenantId
  formatCalendarDay day

/-- A reconciliation to its `SELECT`: the day and the aggregate's rows. -/
def selectAggregate (db : CostLedgerDb) (tenantId : String) (day : DateInput) :
    Except CostLedgerFailure (String × List ReconcileRollupDbRow) :=
  match checkedDay tenantId day with
  | .error e => .error (.input e)
  | .ok dayStr => .ok (dayStr, (aggregate db (trim tenantId) dayStr).map readRow)

def reconciledRollup (tenantId dayStr : String) (row : ReconcileRollupDbRow) :
    Except RepositoryError DailySpendRollup := do
  let cost ← Books.toSqlInteger row.totalCostMicrodollars
  pure ⟨trim tenantId, dayStr, row.provider, row.modelId, row.totalRequests, row.totalTokens, cost⟩

/-- `INSERT INTO daily_spend_rollup`. -/
def insertRollup (rollup : IndexedMap DailySpendRollup.key) (row : DailySpendRollup) :
    Option (IndexedMap DailySpendRollup.key) :=
  if rollup.has row.key then none else some (rollup.set row)

/-- `DELETE FROM daily_spend_rollup WHERE tenant_id = ? AND day = ?`. -/
def deleteRollup (rollup : IndexedMap DailySpendRollup.key) (tenantId dayStr : String) :
    IndexedMap DailySpendRollup.key :=
  rollup.filter fun row => ¬(row.tenantId = tenantId ∧ row.day = dayStr)

/-- The batch of a reconciliation: the tenant's rows of the day are deleted, and those of the
aggregate inserted. -/
def rewriteRollup (db : CostLedgerDb) (tenantId dayStr : String)
    (rows : List ReconcileRollupDbRow) :
    Except CostLedgerFailure (CostLedgerDb × List DailySpendRollup) :=
  match rows.mapM (reconciledRollup tenantId dayStr) with
  | .error _ => .error (.database "Failed to reconcile daily spend rollups")
  | .ok reconciled =>
    match reconciled.foldlM insertRollup (deleteRollup db.rollup (trim tenantId) dayStr) with
    | none => .error (.database "Failed to reconcile daily spend rollups")
    | some rollup => .ok ({ db with rollup }, reconciled)

def reconcileDailyRollupFromLedger (db : CostLedgerDb) (tenantId : String) (day : DateInput) :
    Except CostLedgerFailure (CostLedgerDb × List DailySpendRollup) := do
  let (dayStr, rows) ← selectAggregate db tenantId day
  rewriteRollup db tenantId dayStr rows

end CostLedgerRepository

end KeyCollective
