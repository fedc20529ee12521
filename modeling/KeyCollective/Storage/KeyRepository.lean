import KeyCollective.Crypto.Encoding
import KeyCollective.Number
import KeyCollective.Storage.StoredKeys

/-!
# The repository of keys

`create` checks a new key, encrypts it under a key derived for its tenant and inserts the
row. The derivations and the cipher are parameters; the cipher is ideal when a ciphertext
opens under the key it was made with, to the text it was made of, and under no other. The
decoder behind it drops a byte order mark at the start of the text.
-/

namespace KeyCollective

/-- A secret keys are derived from. -/
inductive KeyMaterial where
  | passphrase (text : String)
  | bytes (bytes : List (Fin 256))
deriving DecidableEq

/-- `KeyInput`: a secret, or a key of the runtime. -/
inductive KeyInput (κ : Type) where
  | material (secret : KeyMaterial)
  | cryptoKey (key : κ)
deriving DecidableEq

/-- `!key`. -/
def KeyInput.isFalsy {κ : Type} : KeyInput κ → Bool
  | .material (.passphrase text) => text = ""
  | _ => false

/-- The derivations and the cipher of the runtime, in base64. -/
class Cipher (κ : Type) where
  deriveTenantKey : KeyMaterial → String → κ
  /-- The key a secret is by itself. None is a secret it refuses. -/
  ownKey : KeyMaterial → Option κ
  encrypt : κ → String → String → String
  /-- The text a ciphertext opens to under a key and a nonce; none is any error. -/
  decrypt : κ → String → String → Option String

/-- An ideal authenticated cipher. -/
class IdealCipher (κ : Type) [Cipher κ] : Prop where
  decrypt_encrypt : ∀ (key : κ) (nonce plaintext : String),
    Cipher.decrypt key (Cipher.encrypt key nonce plaintext) nonce = some (unmarked plaintext)
  /-- A text opens under no key but the one it was sealed with. -/
  decrypt_some : ∀ {key : κ} {ciphertext nonce plaintext : String},
    Cipher.decrypt key ciphertext nonce = some plaintext →
      ∃ sealed, ciphertext = Cipher.encrypt key nonce sealed ∧ unmarked sealed = plaintext
  encrypt_key : ∀ {key other : κ} {nonce plaintext text : String},
    Cipher.encrypt key nonce plaintext = Cipher.encrypt other nonce text → key = other
  encrypt_ne_empty : ∀ (key : κ) (nonce plaintext : String),
    Cipher.encrypt key nonce plaintext ≠ ""

/-- What `crypto.randomUUID()` returns: 36 hexadecimal digits and hyphens. -/
structure Uuid where
  text : String
  chars : ∀ c ∈ text.toList, c ∈ '-' :: hexDigits
  length : text.toList.length = 36

structure CreateApiKeyInput where
  id : Option String := none
  tenantId : String
  label : String
  provider : String
  plaintextKey : String
  rpmLimit : Option Number := none
  rpdLimit : Option Number := none
  priority : Option Int := none
  status : Option String := none
  circuitOpenUntil : Option String := none
  createdAt : Option String := none

inductive CreateApiKeyFailure where
  | invalidKey (message reason : String)
  | missingMasterKey
  /-- A key of the runtime derives no other. -/
  | underivable
  /-- The id exists. -/
  | conflict
deriving DecidableEq

namespace ApiKeyRepository

def keyStatuses : List String :=
  ["Healthy", "RateLimited", "Degraded", "Disabled", "healthy", "rate_limited", "exhausted",
    "invalid", "disabled"]

/-- `Number.isInteger(x)` with the value. -/
def integer : Number → Option Int
  | .finite value => if value.den = 1 then some value.num else none
  | _ => none

def isValidRpmLimit (rpm : Number) : Bool := (integer rpm).any fun n => 1 ≤ n ∧ n ≤ 100000

def isValidRpdLimit (rpd : Number) : Bool := (integer rpd).any fun n => 1 ≤ n

section

variable [NumberText]

def validateCreateApiKeyInput (input : CreateApiKeyInput) : Except CreateApiKeyFailure Unit :=
  if isBlank input.tenantId then
    .error (.invalidKey "Tenant ID cannot be empty" "missing_tenant_id")
  else if isBlank input.plaintextKey then
    .error (.invalidKey "Plaintext API key cannot be empty" "missing_plaintext_key")
  else if isBlank input.provider then
    .error (.invalidKey ("Invalid model provider: '" ++ input.provider ++ "'") "invalid_provider")
  else if isBlank input.label then
    .error (.invalidKey "Key label cannot be empty" "missing_label")
  else match input.rpmLimit.filter fun rpm => !isValidRpmLimit rpm with
  | some rpm =>
    .error (.invalidKey ("Invalid RPM limit: " ++ rpm.text ++
      ". Must be an integer between 1 and 100000.") "invalid_rpm_limit")
  | none =>
    match input.rpdLimit.filter fun rpd => !isValidRpdLimit rpd with
    | some rpd =>
      .error (.invalidKey ("Invalid RPD limit: " ++ rpd.text ++ ". Must be a positive integer.")
        "invalid_rpd_limit")
    | none =>
      match input.status.filter fun status => status ∉ keyStatuses with
      | some status => .error (.invalidKey ("Invalid key status: '" ++ status ++ "'")
          "invalid_status")
      | none => .ok ()

def keyMaskPrefixLength : Nat := 6

def keyMaskSuffixLength : Nat := 4

/-- The first code units of a key, and the last of one that has more than both take. -/
def maskApiKey (key : String) : String × String :=
  (String.ofList (takeUnits keyMaskPrefixLength key.toList),
    if utf16Length key ≤ keyMaskPrefixLength + keyMaskSuffixLength then ""
    else String.ofList (dropUnits (utf16Length key - keyMaskSuffixLength) key.toList))

variable {κ : Type} [Cipher κ]

/-- The row of a new key. The columns the insertion does not name have their defaults. -/
def createdRow (input : CreateApiKeyInput) (tenantKey : κ) (uuid : Uuid) (nonceB64 now : String) :
    StoredKey where
  id := input.id.getD uuid.text
  tenantId := input.tenantId
  label := trim input.label
  provider := input.provider
  encryptedKeyB64 := Cipher.encrypt tenantKey nonceB64 input.plaintextKey
  nonceB64
  keyPrefix := (maskApiKey input.plaintextKey).1
  keySuffix := (maskApiKey input.plaintextKey).2
  rpmLimit := (input.rpmLimit.bind integer).getD 60
  rpdLimit := (input.rpdLimit.bind integer).getD 1500
  priority := input.priority.getD 0
  status := input.status.getD "Healthy"
  circuitOpenUntil := input.circuitOpenUntil
  createdAt := input.createdAt.getD now

/-- The row inserted and the table with it. -/
def create (table : StoredKeys) (input : CreateApiKeyInput) (masterKey : Option (KeyInput κ))
    (uuid : Uuid) (nonceB64 now : String) : Except CreateApiKeyFailure (StoredKey × StoredKeys) :=
  match validateCreateApiKeyInput input with
  | .error e => .error e
  | .ok () =>
    match masterKey.filter fun key => !key.isFalsy with
    | none => .error .missingMasterKey
    | some (.cryptoKey _) => .error .underivable
    | some (.material secret) =>
      let row := createdRow input (Cipher.deriveTenantKey secret input.tenantId : κ) uuid nonceB64
        now
      if table.has row.id then .error .conflict else .ok (row, table.set row)

/-- What is true of the row of a key that was created. -/
theorem create_ok {table : StoredKeys} {input : CreateApiKeyInput}
    {masterKey : Option (KeyInput κ)} {uuid : Uuid} {nonceB64 now : String}
    {created : StoredKey × StoredKeys}
    (done : create table input masterKey uuid nonceB64 now = .ok created) :
    isBlank input.tenantId = false ∧ isBlank input.plaintextKey = false ∧
      ∃ secret, masterKey = some (.material secret) ∧
        (KeyInput.material secret : KeyInput κ).isFalsy = false ∧
        created.1 = createdRow input (Cipher.deriveTenantKey secret input.tenantId : κ) uuid
          nonceB64 now ∧
        created.2.get? created.1.id = some created.1 := by
  unfold create at done
  cases checked : validateCreateApiKeyInput input with
  | error e => simp [checked] at done
  | ok checkedUnit =>
    have texts : isBlank input.tenantId = false ∧ isBlank input.plaintextKey = false := by
      unfold validateCreateApiKeyInput at checked
      split_ifs at checked with tenant plaintext
      exact ⟨Bool.eq_false_iff.mpr tenant, Bool.eq_false_iff.mpr plaintext⟩
    refine ⟨texts.1, texts.2, ?_⟩
    simp only [checked] at done
    split at done
    · cases done
    · cases done
    · rename_i secret given
      obtain ⟨same, usable⟩ := Option.filter_eq_some_iff.mp given
      split_ifs at done
      obtain rfl := Except.ok.inj done
      refine ⟨secret, same, by simpa using usable, rfl, ?_⟩
      rw [IndexedMap.get?_set, if_pos rfl]

end

end ApiKeyRepository

end KeyCollective
