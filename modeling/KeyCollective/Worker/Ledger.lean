import KeyCollective.Host
import KeyCollective.Lib.IndexedMap

/-!
# The ledger and the tokens

The two tables a completion is booked in, with the repositories' checks. Every
statement the database is given succeeds. An event's own id and creation time,
which the repository fills in, are left out.
-/

namespace KeyCollective

structure CostLedgerEvent where
  requestId : String
  tenantId : String
  keyId : String
  provider : String
  modelId : String
  promptTokens : Int
  completionTokens : Int
  cachedTokens : Int
  reasoningTokens : Int
  costMicrodollars : Int
  latencyMs : Int
  statusCode : Nat
deriving DecidableEq, Repr

structure TokenRow where
  id : String
  tenantId : String
  spentMicrodollars : Int
deriving DecidableEq, Repr

inductive RepositoryError where
  | tenantIsolation (message : String)
  | invalidEvent (message : String)
  | typeError (message : String)
  | authentication (message : String)
deriving DecidableEq, Repr

structure Books where
  ledger : List CostLedgerEvent
  tokens : IndexedMap TokenRow.id

namespace Books

def validateEventInput (input : CostLedgerEvent) : Except RepositoryError Unit :=
  if isBlank input.tenantId then .error (.tenantIsolation "Tenant ID must be a non-empty string")
  else if isBlank input.requestId then
    .error (.invalidEvent "requestId must be a non-empty string")
  else if isBlank input.keyId then .error (.invalidEvent "keyId must be a non-empty string")
  else if isBlank input.provider then
    .error (.invalidEvent "provider must be a non-empty string")
  else if isBlank input.modelId then .error (.invalidEvent "modelId must be a non-empty string")
  else if input.statusCode < 100 ∨ 599 < input.statusCode then
    .error (.invalidEvent
      s!"statusCode must be a valid HTTP status code integer (100-599), got: {input.statusCode}")
  else .ok ()

def validateMicrodollars (value : Int) : Except RepositoryError Int :=
  if value < 0 then .error (.invalidEvent s!"costMicrodollars cannot be negative: {value}")
  else .ok value

def toSqlInteger (value : Int) : Except RepositoryError Int :=
  if maxSafeInteger < value ∨ value < -maxSafeInteger then
    .error (.invalidEvent
      s!"Cost microdollar amount exceeds JavaScript safe integer bounds: {value}")
  else .ok value

theorem except_bind_ok {ε α β : Type} {x : Except ε α} {f : α → Except ε β} {b : β} :
    (x >>= f) = .ok b ↔ ∃ a, x = .ok a ∧ f a = .ok b := by
  cases x with
  | error failure => simp [bind, Except.bind]
  | ok a => simp [bind, Except.bind]

theorem validateEventInput_ok {input : CostLedgerEvent} :
    validateEventInput input = .ok () ↔
      isBlank input.tenantId = false ∧ isBlank input.requestId = false ∧
        isBlank input.keyId = false ∧ isBlank input.provider = false ∧
        isBlank input.modelId = false ∧ 100 ≤ input.statusCode ∧ input.statusCode ≤ 599 := by
  unfold validateEventInput
  split_ifs <;> simp_all
  omega

theorem validateMicrodollars_ok {value cost : Int} :
    validateMicrodollars value = .ok cost ↔ 0 ≤ value ∧ cost = value := by
  unfold validateMicrodollars
  split_ifs with negative
  · simp only [false_iff, not_and]
    omega
  · simp only [Except.ok.injEq, eq_comm (a := value)]
    omega

theorem toSqlInteger_ok {value stored : Int} :
    toSqlInteger value = .ok stored ↔
      -maxSafeInteger ≤ value ∧ value ≤ maxSafeInteger ∧ stored = value := by
  unfold toSqlInteger
  split_ifs with outside
  · simp only [false_iff, not_and]
    omega
  · simp only [Except.ok.injEq, eq_comm (a := value)]
    omega

/-- The row an event is stored as. -/
def eventRow (input : CostLedgerEvent) (stored : Int) : CostLedgerEvent where
  requestId := trim input.requestId
  tenantId := trim input.tenantId
  keyId := trim input.keyId
  provider := trim input.provider
  modelId := trim input.modelId
  promptTokens := max 0 input.promptTokens
  completionTokens := max 0 input.completionTokens
  cachedTokens := max 0 input.cachedTokens
  reasoningTokens := max 0 input.reasoningTokens
  costMicrodollars := stored
  latencyMs := max 0 input.latencyMs
  statusCode := input.statusCode

def recordEvent (books : Books) (input : CostLedgerEvent) : Except RepositoryError Books := do
  validateEventInput input
  let cost ← validateMicrodollars input.costMicrodollars
  let stored ← toSqlInteger cost
  pure { books with ledger := books.ledger ++ [eventRow input stored] }

def findById (books : Books) (id tenantId : String) : Except RepositoryError (Option TokenRow) :=
  if id = "" then .ok none
  else if trim tenantId = "" then .error (.tenantIsolation "Tenant ID cannot be empty")
  else match books.tokens.get? (trim id) with
    | none => .ok none
    | some row =>
      if row.tenantId = trim tenantId then .ok (some row)
      else .error (.tenantIsolation
        s!"Token '{id}' belongs to another tenant. Cross-tenant access forbidden.")

def recordSpend (books : Books) (id tenantId : String) (spend : Int) :
    Except RepositoryError Books :=
  if spend < 0 then .error (.typeError "spendMicrodollars cannot be negative")
  else do
    match ← books.findById id tenantId with
    | none => .error (.authentication s!"Token '{id}' not found for tenant '{tenantId}'")
    | some existing =>
      let newSpent := existing.spentMicrodollars + spend
      pure { books with
        tokens := books.tokens.set { existing with spentMicrodollars := numberOfBigInt newSpent } }

end Books

end KeyCollective
