import KeyCollective.Crypto.Encoding
import KeyCollective.Lib.Interleaving
import KeyCollective.Storage.KeyRepository

/-!
# Updates of stored keys

An update reads a whole row and writes most of it back in a statement of its own, and other calls
run between the two. The ciphertext, the nonce and the mask of a row stay together all the same.
-/

namespace KeyCollective.ApiKeyRepository

structure InsertEncryptedApiKeyInput where
  id : Option String := none
  tenantId : String
  label : String
  provider : String
  encryptedKeyB64 : String
  nonceB64 : String
  keyPrefix : Option String := none
  keySuffix : Option String := none
  rpmLimit : Option Int := none
  rpdLimit : Option Int := none
  priority : Option Int := none
  status : Option String := none
  circuitOpenUntil : Option String := none
  lastUsedAt : Option String := none
  createdAt : Option String := none

structure UpdateApiKeyInput where
  label : Option String := none
  rpmLimit : Option Number := none
  rpdLimit : Option Number := none
  priority : Option Int := none
  status : Option String := none
  /-- None inside is null. -/
  circuitOpenUntil : Option (Option String) := none
  plaintextKey : Option String := none

inductive CallFailure where
  | key (failure : CreateApiKeyFailure)
  | notFound (message : String)

/-- The calls that write, with what the runtime draws for them. -/
inductive KeyOperation (κ : Type) where
  | create (input : CreateApiKeyInput) (masterKey : Option (KeyInput κ)) (uuid : Uuid)
    (nonceB64 now : String)
  | insertEncryptedKey (input : InsertEncryptedApiKeyInput) (uuid : Uuid) (now : String)
  | update (id tenantId : String) (updates : UpdateApiKeyInput) (masterKey : Option (KeyInput κ))
    (nonceB64 : String)
  | updateStatus (id tenantId status : String) (circuitOpenUntil : Option String)
  | recordUsage (id : String) (tenantId : Option String) (timestamp : String)
  | delete (id tenantId : String)

/-- What the last statement of a call writes. -/
inductive KeyWrite where
  /-- Every column that an update names, as the call has put it together. -/
  | columns (row : StoredKey)
  | status (status : String) (circuitOpenUntil : Option String)
  | delete

inductive KeyPhase where
  | starting
  | writing (write : KeyWrite)
  | returned
  | threw (failure : CallFailure)

structure KeyCall (κ : Type) where
  operation : KeyOperation κ
  phase : KeyPhase := .starting

/-! ## One call -/

/-- `WHERE id = ? AND tenant_id = ?`, or by the id alone. -/
def getById (table : StoredKeys) (id : String) (tenantId : Option String) : Option StoredKey :=
  (table.get? id).filter fun row => tenantId.all fun tenantId => row.tenantId = tenantId

def notFound (id : String) : CallFailure := .notFound s!"API key '{id}' not found in pool"

def invalid (message reason : String) : CallFailure := .key (.invalidKey message reason)

/-- `validatePreEncryptedNonce`. -/
def nonceFailure (nonceB64 : String) : Option CallFailure :=
  match base64ToUint8Array nonceB64 with
  | none => some (invalid "Invalid nonce Base64 encoding" "invalid_nonce_base64")
  | some bytes =>
    if bytes.length = 12 then none
    else some (invalid (s!"Invalid nonce length: expected 12 bytes (96 bits), " ++
      s!"got {bytes.length} bytes") "invalid_nonce_length")

def insertFailure (input : InsertEncryptedApiKeyInput) : Option CallFailure :=
  if isBlank input.tenantId then some (invalid "Tenant ID cannot be empty" "missing_tenant_id")
  else if isBlank input.label then some (invalid "Key label cannot be empty" "missing_label")
  else if input.provider = "" then
    some (invalid s!"Invalid model provider: '{input.provider}'" "invalid_provider")
  else if isBlank input.encryptedKeyB64 then
    some (invalid "Encrypted key Base64 cannot be empty" "missing_ciphertext")
  else if isBlank input.nonceB64 then
    some (invalid "Nonce Base64 cannot be empty" "missing_nonce")
  else nonceFailure input.nonceB64

def insertedRow (input : InsertEncryptedApiKeyInput) (uuid : Uuid) (now : String) : StoredKey where
  id := input.id.getD uuid.text
  tenantId := input.tenantId
  label := trim input.label
  provider := input.provider
  encryptedKeyB64 := input.encryptedKeyB64
  nonceB64 := input.nonceB64
  keyPrefix := input.keyPrefix.getD "sk-..."
  keySuffix := input.keySuffix.getD "..."
  rpmLimit := input.rpmLimit.getD 60
  rpdLimit := input.rpdLimit.getD 1500
  priority := input.priority.getD 0
  status := input.status.getD "Healthy"
  circuitOpenUntil := input.circuitOpenUntil
  lastUsedAt := input.lastUsedAt
  createdAt := input.createdAt.getD now

def insertEncryptedKey (table : StoredKeys) (input : InsertEncryptedApiKeyInput) (uuid : Uuid)
    (now : String) : Except CallFailure StoredKeys :=
  match insertFailure input with
  | some failure => .error failure
  | none =>
    let row := insertedRow input uuid now
    if table.has row.id then .error (.key .conflict) else .ok (table.set row)

section

variable [NumberText]

/-- The checks of the limits and the status, behind those of the key and the label. -/
def limitsFailure (updates : UpdateApiKeyInput) : Option CallFailure :=
  match updates.rpmLimit.filter fun rpm => !isValidRpmLimit rpm with
  | some rpm => some (invalid (s!"Invalid RPM limit: {rpm.text}. " ++
      "Must be an integer between 1 and 100000.") "invalid_rpm_limit")
  | none =>
    match updates.rpdLimit.filter fun rpd => !isValidRpdLimit rpd with
    | some rpd => some (invalid s!"Invalid RPD limit: {rpd.text}. Must be a positive integer."
        "invalid_rpd_limit")
    | none =>
      (updates.status.filter (· ∉ keyStatuses)).map fun status =>
        invalid s!"Invalid key status: '{status}'" "invalid_status"

variable {κ : Type} [Cipher κ]

/-- A new ciphertext with its nonce and its mask, when the key is rotated. -/
def rotated (existing : StoredKey) (tenantId : String) (updates : UpdateApiKeyInput)
    (masterKey : Option (KeyInput κ)) (nonceB64 : String) : Except CallFailure StoredKey :=
  match updates.plaintextKey with
  | none => .ok existing
  | some plaintextKey =>
    if isBlank plaintextKey then
      .error (invalid "Plaintext API key cannot be empty when rotating key" "empty_plaintext_key")
    else
      match masterKey.filter fun key => !key.isFalsy with
      | none => .error (.key .missingMasterKey)
      | some (.cryptoKey _) => .error (.key .underivable)
      | some (.material secret) =>
        .ok { existing with
          encryptedKeyB64 :=
            Cipher.encrypt (Cipher.deriveTenantKey secret tenantId : κ) nonceB64 plaintextKey
          nonceB64
          keyPrefix := (maskApiKey plaintextKey).1
          keySuffix := (maskApiKey plaintextKey).2 }

/-- What an update makes of the row that it read. -/
def updated (existing : StoredKey) (tenantId : String) (updates : UpdateApiKeyInput)
    (masterKey : Option (KeyInput κ)) (nonceB64 : String) : Except CallFailure StoredKey :=
  match rotated existing tenantId updates masterKey nonceB64 with
  | .error failure => .error failure
  | .ok row =>
    let label := (updates.label.map trim).getD existing.label
    if label = "" then .error (invalid "Key label cannot be empty" "missing_label")
    else
      match limitsFailure updates with
      | some failure => .error failure
      | none =>
        .ok { row with
          label
          rpmLimit := (updates.rpmLimit.bind integer).getD existing.rpmLimit
          rpdLimit := (updates.rpdLimit.bind integer).getD existing.rpdLimit
          priority := updates.priority.getD existing.priority
          status := updates.status.getD existing.status
          circuitOpenUntil := updates.circuitOpenUntil.getD existing.circuitOpenUntil }

/-- The first statement of a call, and what is left of the call. -/
def begin (table : StoredKeys) : KeyOperation κ → StoredKeys × KeyPhase
  | .create input masterKey uuid nonceB64 now =>
    match ApiKeyRepository.create table input masterKey uuid nonceB64 now with
    | .error failure => (table, .threw (.key failure))
    | .ok (_, table) => (table, .returned)
  | .insertEncryptedKey input uuid now =>
    match insertEncryptedKey table input uuid now with
    | .error failure => (table, .threw failure)
    | .ok table => (table, .returned)
  | .update id tenantId updates masterKey nonceB64 =>
    match getById table id (some tenantId) with
    | none => (table, .threw (notFound id))
    | some existing =>
      match updated existing tenantId updates masterKey nonceB64 with
      | .error failure => (table, .threw failure)
      | .ok row => (table, .writing (.columns row))
  | .updateStatus id tenantId status circuitOpenUntil =>
    if status ∉ keyStatuses then
      (table, .threw (invalid s!"Invalid key status: '{status}'" "invalid_status"))
    else
      match getById table id (some tenantId) with
      | none => (table, .threw (notFound id))
      | some _ => (table, .writing (.status status circuitOpenUntil))
  | .recordUsage id tenantId timestamp =>
    match getById table id tenantId with
    | none => (table, .returned)
    | some row => (table.set { row with lastUsedAt := some timestamp }, .returned)
  | .delete id tenantId =>
    match getById table id (some tenantId) with
    | none => (table, .returned)
    | some _ => (table, .writing .delete)

end

namespace KeyOperation

variable {κ : Type}

/-- The id and the tenant of the last statement. -/
def target : KeyOperation κ → String × String
  | update id tenantId _ _ _ | updateStatus id tenantId _ _ | delete id tenantId => (id, tenantId)
  | _ => ("", "")

end KeyOperation

/-- The columns an `UPDATE` sets. -/
def KeyWrite.apply (row : StoredKey) : KeyWrite → StoredKey
  | .columns put =>
    { row with
      label := put.label
      encryptedKeyB64 := put.encryptedKeyB64
      nonceB64 := put.nonceB64
      keyPrefix := put.keyPrefix
      keySuffix := put.keySuffix
      rpmLimit := put.rpmLimit
      rpdLimit := put.rpdLimit
      priority := put.priority
      status := put.status
      circuitOpenUntil := put.circuitOpenUntil }
  | .status next circuitOpenUntil => { row with status := next, circuitOpenUntil }
  | .delete => row

def KeyWrite.run (table : StoredKeys) (id tenantId : String) (write : KeyWrite) : StoredKeys :=
  match getById table id (some tenantId), write with
  | none, _ => table
  | some row, .delete => table.delete row.id
  | some row, write => table.set (write.apply row)

/-- The next statement of a call. -/
def advance [NumberText] {κ : Type} [Cipher κ] (table : StoredKeys) (call : KeyCall κ) :
    StoredKeys × KeyCall κ :=
  match call.phase with
  | .starting =>
    ((begin table call.operation).1, { call with phase := (begin table call.operation).2 })
  | .writing write =>
    (write.run table call.operation.target.1 call.operation.target.2, { call with phase := .returned })
  | .returned | .threw _ => (table, call)

end KeyCollective.ApiKeyRepository
