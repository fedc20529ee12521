import KeyCollective.Auth.Accounts
import KeyCollective.Crypto.RoundTrip
import KeyCollective.Lib.Interleaving
import KeyCollective.Lib.OwnedRecords
import KeyCollective.Storage.Reconciliation

/-!
# AuthTokensRepository

A token is stored as its digest and sealed. The calls that change a token first select its row
under its tenant, then write in a statement of their own, and other calls run between the two.
-/

namespace KeyCollective.TokenVault

open Aes
open Interleaving (Event)

/-- A row of `auth_tokens`. Rows of other writers have nothing sealed in them. -/
structure StoredToken extends AuthTokenRecord where
  encryptedTokenB64 : Option String
  nonceB64 : Option String
  createdAt : Int
deriving DecidableEq

def StoredToken.key (row : StoredToken) : String := row.id

abbrev TokenTable := IndexedMap StoredToken.key

/-- The table, what has been sealed, and the time. -/
structure Vault (κ : Type) where
  tokens : TokenTable
  log : Aes.Sealed κ
  now : Int

structure CreateAuthTokenParams (κ : Type) where
  id : Option String := none
  token : String
  tenantId : String
  encryptionKey : Option (KeyInput κ) := none
  budgetMicrodollars : Option Int := none
  spentMicrodollars : Option Int := none
  allowedProviders : Option (List String) := none
  rpmLimit : Option Int := none
  expiresAt : Option Int := none
  /-- What the runtime draws. -/
  uuid : Uuid
  generated : Nonce

structure UpdateAuthTokenParams where
  budgetMicrodollars : Option Int := none
  allowedProviders : Option (List String) := none
  rpmLimit : Option Int := none
  /-- None inside is null, which lifts the expiry. -/
  expiresAt : Option (Option Int) := none
deriving DecidableEq

inductive TokenFailure where
  | authentication (message reason : String)
  | tenantIsolation (message : String)
  | typeError (message : String)
  | rangeError (message : String)
  | encryption (failure : EncryptionFailure)
  /-- The id or the digest is in the table. -/
  | conflict
deriving DecidableEq

def isValidRpmLimit (rpm : Int) : Bool := 1 ≤ rpm ∧ rpm ≤ 100000

def emptyTenant : TokenFailure := .tenantIsolation "Tenant ID cannot be empty"

section

variable [Edge]

def findByToken (tokens : TokenTable) (plainToken : String) : Option StoredToken :=
  if plainToken = "" then none
  else tokens.values.find? fun row => row.hashSha256 = Edge.hashToken plainToken

/-- Another row has the id or the digest, which are unique. -/
def taken (tokens : TokenTable) (row : StoredToken) : Bool :=
  tokens.has row.id || tokens.values.any fun other => other.hashSha256 = row.hashSha256

variable {κ : Type} (aes : AesGcm κ) (masterKey : KeyInput κ)

/-- `resolveKey`: the key of the call, or the one of the repository. An empty text is no key. -/
def effectiveKey : Option (KeyInput κ) → KeyInput κ
  | some (.material (.passphrase "")) | none => masterKey
  | some overrideKey => overrideKey

/-- The checks behind the encryption. -/
def checkLimits (params : CreateAuthTokenParams κ) : Except TokenFailure Unit :=
  if (params.budgetMicrodollars.getD 0) < 0 then
    .error (.typeError "budgetMicrodollars cannot be negative")
  else if (params.spentMicrodollars.getD 0) < 0 then
    .error (.typeError "spentMicrodollars cannot be negative")
  else if !isValidRpmLimit (params.rpmLimit.getD 60) then
    .error (.rangeError
      s!"Invalid rpmLimit: {params.rpmLimit.getD 60}. Must be between 1 and 100,000.")
  else .ok ()

def newRow (params : CreateAuthTokenParams κ) (payload : EncryptedPayload) (now : Int) :
    StoredToken where
  id := ((params.id.map trim).filter (· ≠ "")).getD params.uuid.text
  hashSha256 := Edge.hashToken (trim params.token)
  tenantId := trim params.tenantId
  budgetMicrodollars := numberOfBigInt (params.budgetMicrodollars.getD 0)
  spentMicrodollars := numberOfBigInt (params.spentMicrodollars.getD 0)
  allowedProviders := params.allowedProviders.getD []
  rpmLimit := params.rpmLimit.getD 60
  expiresAt := params.expiresAt
  encryptedTokenB64 := some payload.ciphertextB64
  nonceB64 := some payload.nonceB64
  createdAt := now

/-- The insertion is the one statement of the call. -/
def createToken (vault : Vault κ) (params : CreateAuthTokenParams κ) :
    Except TokenFailure StoredToken × Vault κ :=
  if trim params.token = "" then
    (.error (.authentication "Bearer token cannot be empty" "invalid_token"), vault)
  else if trim params.tenantId = "" then (.error emptyTenant, vault)
  else
    let (encrypted, log) := encrypt aes vault.log (.text (trim params.token))
      (effectiveKey masterKey params.encryptionKey) none params.generated
    match encrypted with
    | .error failure => (.error (.encryption failure), { vault with log })
    | .ok payload =>
      match checkLimits params with
      | .error failure => (.error failure, { vault with log })
      | .ok () =>
        let row := newRow params payload vault.now
        if taken vault.tokens row then (.error .conflict, { vault with log })
        else (.ok row, { vault with log, tokens := vault.tokens.set row })

variable [DecidableEq κ]

/-- `decryptToken`. None is any error. -/
def decryptToken (log : Aes.Sealed κ) (row : StoredToken) (key : Option (KeyInput κ)) :
    Option String :=
  match row.encryptedTokenB64.filter (· ≠ ""), row.nonceB64.filter (· ≠ "") with
  | some ciphertext, some nonce =>
    (Aes.decrypt aes log (.binary (.text ciphertext)) (effectiveKey masterKey key)
      (some (.text nonce))).toOption
  | _, _ => none

end

/-! ## Calls -/

inductive Operation (κ : Type) where
  | createToken (params : CreateAuthTokenParams κ)
  | deleteToken (id : String) (tenantId : Option String)
  | revokeToken (id : String) (tenantId : Option String)
  | updateBudget (id tenantId : String) (budgetMicrodollars : Int)
  | recordSpend (id tenantId : String) (spendMicrodollars : Int)
  | updateToken (id tenantId : String) (params : UpdateAuthTokenParams)

/-- What the last statement of a call writes. -/
inductive Write where
  | delete
  | expire (nowMs : Int)
  | budget (budgetMicrodollars : Int)
  | spent (spentMicrodollars : Int)
  | fields (params : UpdateAuthTokenParams)
deriving DecidableEq

inductive Phase where
  | starting
  /-- No row of the tenant has the id; whether another tenant's has is next. -/
  | crossing
  /-- The row was found, and the write is next. -/
  | writing (write : Write)
  | returned
  | threw (failure : TokenFailure)
deriving DecidableEq

structure Call (κ : Type) where
  operation : Operation κ
  phase : Phase := .starting

namespace Operation

variable {κ : Type}

def id : Operation κ → String
  | createToken _ => ""
  | deleteToken id _ | revokeToken id _ | updateBudget id _ _ | recordSpend id _ _
  | updateToken id _ _ => id

/-- The tenant a call is scoped to. -/
def tenantId : Operation κ → Option String
  | createToken params => some params.tenantId
  | deleteToken _ tenantId | revokeToken _ tenantId => tenantId
  | updateBudget _ tenantId _ | recordSpend _ tenantId _ | updateToken _ tenantId _ =>
    some tenantId

/-- The check of an amount, before the first statement. -/
def amountFailure : Operation κ → Option TokenFailure
  | updateBudget _ _ budget =>
    if budget < 0 then some (.typeError "budgetMicrodollars cannot be negative") else none
  | recordSpend _ _ spend =>
    if spend < 0 then some (.typeError "spendMicrodollars cannot be negative") else none
  | _ => none

/-- The call ends without a row. -/
def absent : Operation κ → Phase
  | recordSpend id tenantId _ =>
    .threw (.authentication s!"Token '{id}' not found for tenant '{tenantId}'" "invalid_token")
  | _ => .returned

/-- The checks of an update, behind the selection. -/
def checkUpdate (params : UpdateAuthTokenParams) : Phase :=
  if params.budgetMicrodollars.any (· < 0) then
    .threw (.typeError "budgetMicrodollars cannot be negative")
  else
    match params.rpmLimit.filter fun rpm => !isValidRpmLimit rpm with
    | some rpm => .threw (.rangeError s!"Invalid rpmLimit: {rpm}")
    | none => if params = {} then .returned else .writing (.fields params)

/-- What follows the row that was selected. -/
def found (existing : StoredToken) (nowMs : Int) : Operation κ → Phase
  | createToken _ => .returned
  | deleteToken _ _ => .writing .delete
  | revokeToken _ _ => .writing (.expire nowMs)
  | updateBudget _ _ budget => .writing (.budget (numberOfBigInt budget))
  | recordSpend _ _ spend =>
    .writing (.spent (numberOfBigInt (existing.spentMicrodollars + spend)))
  | updateToken _ _ params => checkUpdate params

/-- Without a tenant there is no selection. -/
def unscoped (nowMs : Int) : Operation κ → Phase
  | deleteToken _ _ => .writing .delete
  | revokeToken _ _ => .writing (.expire nowMs)
  | _ => .returned

end Operation

/-- The columns an update sets. -/
def Write.apply (row : StoredToken) : Write → StoredToken
  | delete => row
  | expire nowMs => { row with expiresAt := some nowMs }
  | budget budgetMicrodollars => { row with budgetMicrodollars }
  | spent spentMicrodollars => { row with spentMicrodollars }
  | fields params =>
    { row with
      budgetMicrodollars :=
        (params.budgetMicrodollars.map numberOfBigInt).getD row.budgetMicrodollars
      allowedProviders := params.allowedProviders.getD row.allowedProviders
      rpmLimit := params.rpmLimit.getD row.rpmLimit
      expiresAt := params.expiresAt.getD row.expiresAt }

/-- `… WHERE id = ? AND tenant_id = ?`, or by the id alone. -/
def selectRow (tokens : TokenTable) (id : String) (tenantId : Option String) : Option StoredToken :=
  (tokens.get? (trim id)).filter fun row => tenantId.all fun tenantId => row.tenantId = trim tenantId

/-- A `DELETE` or an `UPDATE`. -/
def Write.run (tokens : TokenTable) (id : String) (tenantId : Option String) (write : Write) :
    TokenTable :=
  match selectRow tokens id tenantId with
  | none => tokens
  | some row => if write = .delete then tokens.delete row.id else tokens.set (write.apply row)

variable {κ : Type}

/-- The first statement of a call on a token. -/
def select (vault : Vault κ) (operation : Operation κ) : Phase :=
  match operation.amountFailure with
  | some failure => .threw failure
  | none =>
    if operation.id = "" then operation.absent
    else
      match operation.tenantId with
      | none => operation.unscoped vault.now
      | some tenantId =>
        if trim tenantId = "" then .threw emptyTenant
        else
          match selectRow vault.tokens operation.id (some tenantId) with
          | some existing => operation.found existing vault.now
          | none => .crossing

/-- The second selection, that looks for another tenant's row. -/
def crossCheck (vault : Vault κ) (operation : Operation κ) : Phase :=
  match selectRow vault.tokens operation.id none with
  | some row =>
    if operation.tenantId.all fun tenantId => row.tenantId = trim tenantId then operation.absent
    else .threw (.tenantIsolation
      s!"Token '{operation.id}' belongs to another tenant. Cross-tenant access forbidden.")
  | none => operation.absent

variable [Edge] (aes : AesGcm κ) (masterKey : KeyInput κ)

/-- The next statement of a call. -/
def advance (vault : Vault κ) (call : Call κ) : Vault κ × Call κ :=
  match call.phase with
  | .starting =>
    match call.operation with
    | .createToken params =>
      match createToken aes masterKey vault params with
      | (.ok _, vault) => (vault, { call with phase := .returned })
      | (.error failure, vault) => (vault, { call with phase := .threw failure })
    | operation => (vault, { call with phase := select vault operation })
  | .crossing => (vault, { call with phase := crossCheck vault call.operation })
  | .writing write =>
    ({ vault with tokens := write.run vault.tokens call.operation.id call.operation.tenantId },
      { call with phase := .returned })
  | .returned | .threw _ => (vault, call)

abbrev World (κ : Type) := Interleaving.System (Vault κ) (Call κ)

def Vault.later (ms : Nat) (vault : Vault κ) : Vault κ := { vault with now := vault.now + ms }

def step (world : World κ) (event : Event) : World κ :=
  Interleaving.stepEvent (advance aes masterKey) Vault.later world event

def run (world : World κ) (schedule : List Event) : World κ :=
  Interleaving.runEvents (advance aes masterKey) Vault.later world schedule

/-- Whether a token is accepted, and why not. -/
inductive TokenValidation where
  | valid (token : StoredToken)
  | invalid (reason : String)

/-- `validateToken` at the present time. -/
def validateToken [Host] (vault : Vault κ) (plainToken : String) (requiredProvider : Option String) :
    TokenValidation :=
  match findByToken vault.tokens plainToken with
  | none => .invalid "invalid_token"
  | some row =>
    if row.expiresAt.any (· ≤ vault.now) then .invalid "expired_token"
    else if (requiredProvider.filter (· ≠ "")).any fun provider =>
        row.allowedProviders ≠ [] ∧ ¬row.allowedProviders.any fun allowed =>
          trim (Host.toLowerCase allowed) = trim (Host.toLowerCase provider) then
      .invalid "provider_not_allowed"
    else if 0 < row.budgetMicrodollars ∧ row.budgetMicrodollars ≤ row.spentMicrodollars then
      .invalid "budget_exceeded"
    else .valid row

end KeyCollective.TokenVault
