import KeyCollective.Worker.Credentials
import KeyCollective.Worker.KeyResolver

/-!
# The rows of the worker and their ciphertexts

A row of the worker says what was sealed and for which key. A stored row has only the
ciphertext. An ideal cipher opens the stored row where the worker opens its own, so both
resolve an id to the same text.
-/

namespace KeyCollective

open ResolverEnv

variable {κ : Type} [Cipher κ] (masterKey : KeyInput κ)

/-- The key of the runtime; none is a key that cannot be derived. -/
def CipherKey.derived : CipherKey → Option κ
  | tenant tenantId => tenantKey masterKey tenantId
  | master => directKey masterKey

/-! ## One row -/

section Row

variable (row : ApiKeyRow) (stored : StoredKey) (tenantId : String)

/-- The stored row is the worker's row, sealed. -/
structure ApiKeyRow.Stored : Prop where
  tenantId : stored.tenantId = row.tenantId
  ciphertext : stored.encryptedKeyB64 = row.encrypted.ciphertextB64
  nonce : stored.nonceB64 = row.encrypted.nonceB64
  sealed : ∃ sealing plaintext, row.encrypted.key.derived masterKey = some sealing ∧
    stored.encryptedKeyB64 = Cipher.encrypt sealing stored.nonceB64 plaintext ∧
      unmarked plaintext = row.encrypted.content.text

/-- No other key that is tried on the row is derived to the one it was sealed with. -/
def ApiKeyRow.Apart : Prop :=
  ∀ key ∈ decryptionKeys row tenantId,
    key.derived masterKey = row.encrypted.key.derived masterKey → key = row.encrypted.key

end Row

variable {masterKey} {row : ApiKeyRow} {stored : StoredKey} {tenantId : String}

theorem filterMap_tried (tried : Prop) [Decidable tried] (key : CipherKey) :
    [if tried then key.derived masterKey else none].filterMap id =
      (if tried then [key] else []).filterMap (CipherKey.derived masterKey) := by
  split <;> simp [List.filterMap_cons]

theorem attempts_eq (same : stored.tenantId = row.tenantId) :
    attempts masterKey stored tenantId =
      (decryptionKeys row tenantId).filterMap (CipherKey.derived masterKey) := by
  have untried : [CipherKey.master, .tenant "default"].filterMap (CipherKey.derived masterKey) =
      [directKey masterKey, tenantKey masterKey "default"].filterMap id := by
    simp [List.filterMap_cons, CipherKey.derived]
  rw [decryptionKeys, List.filterMap_append, List.filterMap_append, ← filterMap_tried,
    ← filterMap_tried, untried, ← List.filterMap_append, ← List.filterMap_append, ← same]
  rfl

/-- A ciphertext opens under the key it was sealed with, and under no other. -/
theorem ApiKeyRow.Stored.openRow_eq [IdealCipher κ] (stands : row.Stored masterKey stored)
    (apart : row.Apart masterKey tenantId) {key : CipherKey}
    (tried : key ∈ decryptionKeys row tenantId) :
    (key.derived masterKey).bind (openRow stored) =
      ((decrypt row.encrypted key).filter fun opened => !isBlank opened.text).map
        fun opened => opened.trimmed.text := by
  obtain ⟨sealing, plaintext, derived, ciphertext, read⟩ := stands.sealed
  by_cases same : row.encrypted.key = key
  · subst same
    rw [derived, Option.bind_some, openRow, ciphertext, IdealCipher.decrypt_encrypt, read, decrypt,
      if_pos rfl]
    by_cases blank : isBlank row.encrypted.content.text <;>
      simp [Option.filter, blank, Credential.trimmed]
  · rw [decrypt, if_neg same]
    cases other : key.derived masterKey with
    | none => rfl
    | some tryingKey =>
      cases opened : Cipher.decrypt tryingKey stored.encryptedKeyB64 stored.nonceB64 with
      | none => simp [openRow, opened]
      | some text =>
        obtain ⟨text', made, -⟩ := IdealCipher.decrypt_some opened
        have shared : sealing = tryingKey := IdealCipher.encrypt_key (ciphertext.symm.trans made)
        refine absurd (apart key tried ?_).symm same
        rw [other, derived, shared]

/-- The worker opens a row to the text that its ciphertext opens to. -/
theorem ApiKeyRow.Stored.decryptRow_eq [IdealCipher κ] (stands : row.Stored masterKey stored)
    (apart : row.Apart masterKey tenantId) :
    ResolverEnv.decryptRow masterKey stored tenantId =
      (decryptRow row tenantId).map Credential.text := by
  unfold ResolverEnv.decryptRow decryptRow
  rw [stands.ciphertext, stands.nonce]
  by_cases empty : row.encrypted.ciphertextB64 = "" ∨ row.encrypted.nonceB64 = ""
  · rw [if_pos empty, if_pos empty, Option.map_none]
  · rw [if_neg empty, if_neg empty, List.map_findSome?, ← List.head?_filterMap,
      attempts_eq stands.tenantId, List.filterMap_filterMap, ← List.head?_filterMap]
    congr 1
    apply List.filterMap_congr
    intro key tried
    rw [stands.openRow_eq apart tried, Function.comp_apply]
    cases decrypt row.encrypted key with
    | none => rfl
    | some opened => by_cases blank : isBlank opened.text <;> simp [Option.filter, blank]

/-- The row of a new key is stored as what the host has sealed for its tenant. -/
theorem newRow_stored [Host] {target : String} {body : PostKeyBody} {entropy : Entropy} {sealing : κ}
    (derived : tenantKey masterKey target = some sealing)
    (made : entropy.ciphertextB64 = Cipher.encrypt sealing entropy.nonceB64 (trim body.key))
    (owner : stored.tenantId = target) (ciphertext : stored.encryptedKeyB64 = entropy.ciphertextB64)
    (nonce : stored.nonceB64 = entropy.nonceB64) :
    (newRow target body entropy).Stored masterKey stored where
  tenantId := owner
  ciphertext := ciphertext
  nonce := nonce
  sealed := ⟨sealing, trim body.key, derived, by rw [ciphertext, made, nonce], unmarked_trim _⟩

/-! ## The resolver -/

/-- What is resolved, without its history. -/
def Plaintext.resolved : Plaintext → ResolvedKey
  | .asGiven text => .asGiven text
  | .stored credential => .decrypted credential.text

def texts (cache : DecryptedKeyCache) : TextCache := fun id =>
  (cache id).map fun cached => ⟨cached.key.text, cached.expiresAt⟩

theorem texts_update (cache : DecryptedKeyCache) (id : String) (cached : CachedKey) :
    texts (Function.update cache id (some cached)) =
      Function.update (texts cache) id (some ⟨cached.key.text, cached.expiresAt⟩) :=
  Function.comp_update (Option.map fun cached : CachedKey => (⟨cached.key.text, cached.expiresAt⟩ :
    CachedText)) cache id (some cached)

/-- Every row of the one table is stored in the other. -/
def StoredAs (masterKey : KeyInput κ) (tenantId : String) (apiKeys : ApiKeys) (table : StoredKeys) :
    Prop :=
  ∀ id, Option.Rel (fun row stored => row.Stored masterKey stored ∧ row.Apart masterKey tenantId)
    (apiKeys.get? id) (table.get? id)

theorem StoredAs.decrypted [IdealCipher κ] {apiKeys : ApiKeys} {table : StoredKeys}
    (same : StoredAs masterKey tenantId apiKeys table) (id : String) :
    (table.get? id).bind (ResolverEnv.decryptRow masterKey · tenantId) =
      ((apiKeys.get? id).bind (decryptRow · tenantId)).map Credential.text := by
  have rows := same id
  cases found : apiKeys.get? id with
  | none =>
    cases read : table.get? id with
    | none => rfl
    | some stored =>
      rw [found, read] at rows
      cases rows
  | some row =>
    cases read : table.get? id with
    | none =>
      rw [found, read] at rows
      cases rows
    | some stored =>
      rw [found, read] at rows
      obtain ⟨stands, apart⟩ := Option.rel_some_some.mp rows
      exact stands.decryptRow_eq apart

/-- With its master key and a table that reads, the worker resolves an id as its rows say. -/
theorem resolvePlaintextKey_eq [IdealCipher κ] {env : ResolverEnv κ} {apiKeys : ApiKeys}
    {table : StoredKeys} (configured : env.resolvedMasterKey = some masterKey)
    (read : env.apiKeys = some table) (same : StoredAs masterKey tenantId apiKeys table)
    (cache : DecryptedKeyCache) (keyId : String) (now : Int) :
    env.resolvePlaintextKey (texts cache) keyId tenantId now =
      ((resolvePlaintextKey apiKeys cache keyId tenantId now).1.resolved,
        texts (resolvePlaintextKey apiKeys cache keyId tenantId now).2) := by
  unfold ResolverEnv.resolvePlaintextKey resolvePlaintextKey
  by_cases empty : keyId = ""
  · rw [if_pos empty, if_pos empty]
    rfl
  rw [if_neg empty, if_neg empty]
  dsimp only
  cases raw : looksRaw (trim keyId) with
  | true => rfl
  | false =>
    have fresh : ((texts cache) (trim keyId)).filter (fun cached => now < cached.expiresAt) =
        ((cache (trim keyId)).filter fun cached => now < cached.expiresAt).map fun cached =>
          ⟨cached.key.text, cached.expiresAt⟩ := by
      rw [texts, Option.filter_map]
      rfl
    rw [fresh]
    cases (cache (trim keyId)).filter fun cached => now < cached.expiresAt with
    | some cached => rfl
    | none =>
      rw [configured, read]
      dsimp only [Option.map_none, Option.bind_some]
      rw [same.decrypted]
      cases (apiKeys.get? (trim keyId)).bind (decryptRow · tenantId) with
      | none => rfl
      | some decrypted =>
        exact congrArg (Prod.mk (ResolvedKey.decrypted decrypted.text))
          (texts_update cache (trim keyId) ⟨decrypted, now + cacheTtlMs⟩).symm

section

attribute [local instance] tallyCipher ideal_tallyCipher

/-- `acme`'s row as the worker has it. -/
def acmeGroqRow : ApiKeyRow where
  id := "key_groq_1"
  tenantId := "acme"
  provider := "groq"
  encrypted :=
    { ciphertextB64 := groqRow.encryptedKeyB64
      nonceB64 := groqRow.nonceB64
      key := .tenant "acme"
      content := ⟨"acme", "gsk_secret"⟩ }
  rpmLimit := 60
  rpdLimit := 1500
  status := "Healthy"
  poolType := .private
  communityRoutingStatus := none

example : acmeGroqRow.Stored passphrase groqRow ∧ acmeGroqRow.Apart passphrase "globex" := by
  refine ⟨⟨rfl, rfl, rfl, 5, "gsk_secret", rfl, rfl, by decide⟩, ?_⟩
  intro key tried
  have keys : decryptionKeys acmeGroqRow "globex" =
      [.tenant "acme", .tenant "globex", .master, .tenant "default"] := by decide
  rw [keys] at tried
  fin_cases tried <;> decide

end

end KeyCollective
