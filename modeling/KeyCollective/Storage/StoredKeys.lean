import KeyCollective.Lib.IndexedMap
import KeyCollective.Pool.EncryptedKey
import KeyCollective.Worker.Credentials

/-!
# Stored keys

The `api_keys` table as the D1 adapter uses it: one key saved, read or deleted on behalf
of its tenant. Deleting and reading name the tenant; saving resolves a conflict on the id
alone.
-/

namespace KeyCollective

structure StoredKey where
  id : String
  tenantId : String
  label : String
  provider : String
  encryptedKeyB64 : String
  nonceB64 : String
  keyPrefix : String
  keySuffix : String
  rpmLimit : Int := 60
  rpdLimit : Int := 1500
  priority : Int := 0
  status : String := "Healthy"
  circuitOpenUntil : Option String := none
  lastUsedAt : Option String := none
  createdAt : String
  poolType : Option PoolType := some .community
  communityRoutingStatus : Option CommunityRoutingStatus := some .observation
  observationUntil : Option String := none
  dispatchedToday : Option Int := some 0
  dispatchedCommunal : Option Int := some 0
  vestingTier : Option Int := some 0
  providerProjectHash : Option String := none
  hkdfMigrated : Int := 0
deriving DecidableEq, Repr

abbrev StoredKeys := IndexedMap StoredKey.id

namespace D1StorageAdapter

def tenantIdError : String := "Tenant ID must be a non-empty string"

/-- `assertValidTenantId`. -/
def validTenantId (tenantId : Option String) : Except String String :=
  match tenantId.filter fun tenantId => isBlank tenantId = false with
  | some tenantId => .ok (trim tenantId)
  | none => .error tenantIdError

def required (name text : String) : Except String String :=
  if isBlank text then .error (name ++ " cannot be empty") else .ok (trim text)

/-- The row the statement offers for insertion. The columns it does not name have the
defaults of the schema. -/
def offeredRow (key : EncryptedKey) (createdAt : String) : Except String StoredKey := do
  let tenantId ← validTenantId key.tenantId
  let id ← required "Key ID" key.id
  let provider ← required "Provider" key.provider
  let encryptedKeyB64 ← required "Ciphertext" key.ciphertext
  let nonceB64 ← required "Nonce" key.nonce
  return {
    id, tenantId, provider, encryptedKeyB64, nonceB64
    label := key.provider ++ " Key"
    keyPrefix := "enc_"
    keySuffix := "..."
    createdAt }

/-- `ON CONFLICT (id) DO UPDATE`. The columns the clause does not name are kept. -/
def updateRow (old offered : StoredKey) : StoredKey :=
  { old with
    tenantId := offered.tenantId
    label := offered.label
    provider := offered.provider
    encryptedKeyB64 := offered.encryptedKeyB64
    nonceB64 := offered.nonceB64
    keyPrefix := offered.keyPrefix
    keySuffix := offered.keySuffix
    rpmLimit := offered.rpmLimit
    rpdLimit := offered.rpdLimit
    priority := offered.priority
    status := offered.status
    circuitOpenUntil := offered.circuitOpenUntil
    lastUsedAt := offered.lastUsedAt }

variable (table : StoredKeys)

def upsert (offered : StoredKey) : StoredKeys :=
  match table.get? offered.id with
  | some old => table.set (updateRow old offered)
  | none => table.set offered

def saveEncryptedKey (key : EncryptedKey) (createdAt : String) : Except String StoredKeys :=
  (offeredRow key createdAt).map (upsert table)

def getKeyById (tenantId : Option String) (keyId : String) : Except String (Option StoredKey) := do
  let tenantId ← validTenantId tenantId
  let keyId ← required "Key ID" keyId
  return (table.get? keyId).filter fun row => row.tenantId = tenantId

def deleteKey (tenantId : Option String) (keyId : String) : Except String StoredKeys := do
  let tenantId ← validTenantId tenantId
  let keyId ← required "Key ID" keyId
  return table.filter fun row => ¬(row.tenantId = tenantId ∧ row.id = keyId)

/-! ## What a call leaves alone -/

variable {table}

/-- The rows of every tenant but one are as they were. -/
def OthersKept (tenantId : String) (before after : StoredKeys) : Prop :=
  ∀ row ∈ before.values, row.tenantId ≠ tenantId → after.get? row.id = some row

theorem validTenantId_ok {tenantId : Option String} {clean : String}
    (valid : validTenantId tenantId = .ok clean) :
    ∃ given, tenantId = some given ∧ isBlank given = false ∧ clean = trim given := by
  unfold validTenantId at valid
  split at valid
  · rename_i given named
    obtain ⟨same, text⟩ := Option.filter_eq_some_iff.mp named
    exact ⟨given, same, of_decide_eq_true text, (Except.ok.inj valid).symm⟩
  · cases valid

theorem required_ok {name text clean : String} (valid : required name text = .ok clean) :
    clean = trim text := by
  unfold required at valid
  split at valid
  · cases valid
  · exact (Except.ok.inj valid).symm

theorem offeredRow_ok {key : EncryptedKey} {createdAt : String} {offered : StoredKey}
    (accepted : offeredRow key createdAt = .ok offered) :
    offered.id = trim key.id ∧ key.tenantId.map trim = some offered.tenantId := by
  unfold offeredRow at accepted
  cases tenant : validTenantId key.tenantId with
  | error e => simp [tenant, bind, Except.bind] at accepted
  | ok tenantId =>
    cases named : required "Key ID" key.id with
    | error e => simp [tenant, named, bind, Except.bind] at accepted
    | ok id =>
      have filled : offered.id = id ∧ offered.tenantId = tenantId := by
        simp only [tenant, named, bind, Except.bind, pure, Except.pure] at accepted
        split at accepted
        · cases accepted
        · split at accepted
          · cases accepted
          · split at accepted
            · cases accepted
            · obtain rfl := Except.ok.inj accepted
              exact ⟨rfl, rfl⟩
      obtain ⟨given, same, -, rfl⟩ := validTenantId_ok tenant
      rw [filled.1, filled.2, same, required_ok named]
      exact ⟨rfl, rfl⟩

theorem get?_upsert (offered : StoredKey) (id : String) :
    (upsert table offered).get? id =
      if offered.id = id then
        some ((table.get? id).elim offered fun old => updateRow old offered)
      else table.get? id := by
  unfold upsert
  cases present : table.get? offered.id with
  | none =>
    rw [IndexedMap.get?_set]
    by_cases same : offered.id = id
    · subst same
      rw [if_pos rfl, if_pos rfl, present]
      rfl
    · rw [if_neg same, if_neg same]
  | some old =>
    have key : (updateRow old offered).id = offered.id := (IndexedMap.get?_some present).2
    rw [IndexedMap.get?_set, key]
    by_cases same : offered.id = id
    · subst same
      rw [if_pos rfl, if_pos rfl, present]
      rfl
    · rw [if_neg same, if_neg same]

/-- A conflict makes the row the caller's, whoever had it. -/
theorem upsert_keeps_iff (offered : StoredKey) :
    OthersKept offered.tenantId table (upsert table offered) ↔
      ∀ row ∈ table.values, row.id = offered.id → row.tenantId = offered.tenantId := by
  constructor
  · intro kept row mem conflict
    by_contra foreign
    have same := kept row mem foreign
    have taken : table.get? row.id = some row := IndexedMap.get?_of_mem mem
    rw [get?_upsert, if_pos conflict.symm, taken] at same
    have updated : updateRow row offered = row := Option.some.inj same
    have owner : (updateRow row offered).tenantId = row.tenantId := by rw [updated]
    exact foreign owner.symm
  · intro owned row mem foreign
    have apart : offered.id ≠ row.id := fun conflict => foreign (owned row mem conflict.symm)
    rw [get?_upsert, if_neg apart]
    exact IndexedMap.get?_of_mem mem

/-- Deleting a key leaves the rows of the other tenants. -/
theorem deleteKey_keeps {tenantId : Option String} {keyId : String} {after : StoredKeys}
    (deleted : deleteKey table tenantId keyId = .ok after) :
    ∃ clean, tenantId.map trim = some clean ∧ OthersKept clean table after := by
  unfold deleteKey at deleted
  cases tenant : validTenantId tenantId with
  | error e => simp [tenant, bind, Except.bind] at deleted
  | ok clean =>
    cases named : required "Key ID" keyId with
    | error e => simp [tenant, named, bind, Except.bind] at deleted
    | ok id =>
      simp only [tenant, named, bind, Except.bind, pure, Except.pure] at deleted
      obtain rfl := Except.ok.inj deleted
      obtain ⟨given, rfl, -, rfl⟩ := validTenantId_ok tenant
      refine ⟨trim given, rfl, ?_⟩
      intro row mem foreign
      rw [IndexedMap.get?_filter, IndexedMap.get?_of_mem mem, Option.filter_some]
      simp [foreign]

/-- **Saving a key** leaves the rows of the other tenants alone exactly when the call is
refused or none of them has the id it gives. -/
theorem saveEncryptedKey_isolates_iff (table : StoredKeys) (key : EncryptedKey)
    (createdAt : String) :
    (∀ after, saveEncryptedKey table key createdAt = .ok after →
      ∀ tenantId, key.tenantId.map trim = some tenantId → OthersKept tenantId table after) ↔
    (∃ e, offeredRow key createdAt = .error e) ∨
      ∀ row ∈ table.values, row.id = trim key.id → key.tenantId.map trim = some row.tenantId := by
  unfold saveEncryptedKey
  cases offer : offeredRow key createdAt with
  | error e => simp [Except.map]
  | ok offered =>
    obtain ⟨id, tenant⟩ := offeredRow_ok offer
    rw [tenant, ← id]
    constructor
    · intro kept
      refine Or.inr fun row mem conflict => ?_
      rw [(upsert_keeps_iff offered).mp (kept _ rfl _ rfl) row mem conflict]
    · rintro (⟨e, refused⟩ | owned)
      · cases refused
      · intro after saved tenantId caller
        obtain rfl := Except.ok.inj saved
        obtain rfl := Option.some.inj caller
        refine (upsert_keeps_iff offered).mpr fun row mem conflict => ?_
        exact (Option.some.inj (owned row mem conflict)).symm

def acmeRow : StoredKey where
  id := "key_1"
  tenantId := "acme"
  label := "groq Key"
  provider := "groq"
  encryptedKeyB64 := "YWNtZQ=="
  nonceB64 := "bm9uY2U="
  keyPrefix := "enc_"
  keySuffix := "..."
  createdAt := "2026-09-10T00:00:00.000Z"

def globexKey : EncryptedKey where
  id := "key_1"
  tenantId := some "globex"
  provider := "groq"
  ciphertext := "Z2xvYmV4"
  nonce := "bm9uY2Uy"

/-- A second tenant saves a key under the first one's id and has the row. -/
theorem foreign_row_taken :
    ¬∀ after, saveEncryptedKey (IndexedMap.empty.set acmeRow) globexKey
        "2026-09-11T00:00:00.000Z" = .ok after →
      ∀ tenantId, globexKey.tenantId.map trim = some tenantId →
        OthersKept tenantId (IndexedMap.empty.set acmeRow) after := by
  intro kept
  have same := kept _ rfl "globex" rfl acmeRow (by decide) (by decide)
  revert same
  decide

end D1StorageAdapter

end KeyCollective
