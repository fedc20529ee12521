import KeyCollective.Quota.Storage
import KeyCollective.Storage.KeyRepository

/-!
# Resolving a key

`resolvePlaintextKey` turns the id a pool has selected into the plaintext of the row, which
it keeps for five minutes. What it cannot resolve it returns as it is given, to be sent
upstream: a text that looks like a key, and every id whose lookup or decryption fails.
-/

namespace KeyCollective

/-- Where the text sent upstream comes from. -/
inductive ResolvedKey where
  /-- The argument, trimmed. -/
  | asGiven (text : String)
  /-- The content of a row, or of the cache. -/
  | decrypted (text : String)
deriving DecidableEq

structure CachedText where
  key : String
  expiresAt : Int
deriving DecidableEq

abbrev TextCache := String → Option CachedText

/-- What the resolver reads of the worker. A database that is missing or fails has no table. -/
structure ResolverEnv (κ : Type) where
  masterKey : Option (KeyInput κ)
  kcMasterKey : Option String
  apiKeys : Option StoredKeys

namespace ResolverEnv

variable {κ : Type} [Cipher κ] (env : ResolverEnv κ)

/-- `masterKey ?? env.KC_MASTER_KEY`, unless it is empty. -/
def resolvedMasterKey : Option (KeyInput κ) :=
  (env.masterKey <|> env.kcMasterKey.map fun text => KeyInput.material (.passphrase text)).filter
    fun key => !key.isFalsy

/-- The key derived for a tenant. Deriving from a key of the runtime is an error. -/
def tenantKey : KeyInput κ → String → Option κ
  | .material secret, tenantId => some (Cipher.deriveTenantKey secret tenantId)
  | .cryptoKey _, _ => none

/-- The key of `decryptKey`. -/
def directKey : KeyInput κ → Option κ
  | .material secret => Cipher.ownKey secret
  | .cryptoKey key => some key

/-- The keys tried on a row, in order. -/
def attempts (masterKey : KeyInput κ) (row : StoredKey) (tenantId : String) : List κ :=
  ([if row.tenantId ≠ "" then tenantKey masterKey row.tenantId else none,
    if tenantId ≠ "" ∧ tenantId ≠ row.tenantId then tenantKey masterKey tenantId else none,
    directKey masterKey, tenantKey masterKey "default"]).filterMap id

/-- What a key makes of a row: a text that is not blank, trimmed. -/
def openRow (row : StoredKey) (key : κ) : Option String :=
  ((Cipher.decrypt key row.encryptedKeyB64 row.nonceB64).filter fun text => !isBlank text).map trim

def decryptRow (masterKey : KeyInput κ) (row : StoredKey) (tenantId : String) : Option String :=
  if row.encryptedKeyB64 = "" ∨ row.nonceB64 = "" then none
  else (attempts masterKey row tenantId).findSome? (openRow row)

def resolvePlaintextKey (cache : TextCache) (keyIdOrPlaintext tenantId : String) (now : Int) :
    ResolvedKey × TextCache :=
  if keyIdOrPlaintext = "" then (.asGiven keyIdOrPlaintext, cache)
  else
    let trimmed := trim keyIdOrPlaintext
    if looksRaw trimmed then (.asGiven trimmed, cache)
    else match (cache trimmed).filter fun cached => now < cached.expiresAt with
    | some cached => (.decrypted cached.key, cache)
    | none =>
      match env.resolvedMasterKey with
      | none => (.asGiven trimmed, cache)
      | some masterKey =>
        match (env.apiKeys.bind (·.get? trimmed)).bind (decryptRow masterKey · tenantId) with
        | some decrypted =>
          (.decrypted decrypted,
            Function.update cache trimmed (some ⟨decrypted, now + cacheTtlMs⟩))
        -- Whatever failed, the id is returned for a key.
        | none => (.asGiven trimmed, cache)

/-! ## When a stored key is resolved -/

/-- The row opens to the plaintext under one of the keys tried. -/
def Opens (masterKey : KeyInput κ) (row : StoredKey) (tenantId plaintext : String) : Prop :=
  row.encryptedKeyB64 ≠ "" ∧ row.nonceB64 ≠ "" ∧
    ∃ key ∈ attempts masterKey row tenantId, openRow row key = some plaintext

/-- The id does not pass for a key, and the cache, or else the row under the id, has the
plaintext. -/
def Resolvable (cache : TextCache) (keyId tenantId plaintext : String) (now : Int) : Prop :=
  looksRaw (trim keyId) = false ∧
    match (cache (trim keyId)).filter fun cached => now < cached.expiresAt with
    | some cached => cached.key = plaintext
    | none => ∃ masterKey apiKeys row, env.resolvedMasterKey = some masterKey ∧
        env.apiKeys = some apiKeys ∧ apiKeys.get? (trim keyId) = some row ∧
        Opens masterKey row tenantId plaintext

/-- Under an ideal cipher all keys that open a row open it to the same text. -/
theorem openRow_unique [IdealCipher κ] {row : StoredKey} {key other : κ} {text plaintext : String}
    (first : openRow row key = some text) (second : openRow row other = some plaintext) :
    text = plaintext := by
  obtain ⟨opened, kept, rfl⟩ := Option.map_eq_some_iff.mp first
  obtain ⟨opened', kept', rfl⟩ := Option.map_eq_some_iff.mp second
  have read := (Option.filter_eq_some_iff.mp kept).1
  have read' := (Option.filter_eq_some_iff.mp kept').1
  obtain ⟨sealed, made, -⟩ := IdealCipher.decrypt_some read
  obtain ⟨sealed', made', -⟩ := IdealCipher.decrypt_some read'
  obtain rfl : key = other := IdealCipher.encrypt_key (made.symm.trans made')
  rw [Option.some.inj (read.symm.trans read')]

theorem decryptRow_iff [IdealCipher κ] (masterKey : KeyInput κ) (row : StoredKey)
    (tenantId plaintext : String) :
    decryptRow masterKey row tenantId = some plaintext ↔
      Opens masterKey row tenantId plaintext := by
  unfold decryptRow Opens
  by_cases empty : row.encryptedKeyB64 = "" ∨ row.nonceB64 = ""
  · rw [if_pos empty]
    constructor
    · intro none
      cases none
    · rintro ⟨ciphertext, nonce, -⟩
      exact absurd empty (not_or.mpr ⟨ciphertext, nonce⟩)
  · rw [if_neg empty]
    obtain ⟨ciphertext, nonce⟩ := not_or.mp empty
    constructor
    · intro found
      obtain ⟨key, mem, opened⟩ := List.exists_of_findSome?_eq_some found
      exact ⟨ciphertext, nonce, key, mem, opened⟩
    · rintro ⟨-, -, key, mem, opened⟩
      cases found : (attempts masterKey row tenantId).findSome? (openRow row) with
      | none =>
        have shut := List.findSome?_eq_none_iff.mp found key mem
        rw [opened] at shut
        cases shut
      | some text =>
        obtain ⟨first, -, opened'⟩ := List.exists_of_findSome?_eq_some found
        rw [openRow_unique opened' opened]

/-- An id is resolved to a plaintext exactly where it can be. -/
theorem resolvePlaintextKey_iff [IdealCipher κ] (cache : TextCache)
    {keyId : String} (named : keyId ≠ "") (tenantId plaintext : String) (now : Int) :
    (env.resolvePlaintextKey cache keyId tenantId now).1 = .decrypted plaintext ↔
      env.Resolvable cache keyId tenantId plaintext now := by
  unfold resolvePlaintextKey Resolvable
  rw [if_neg named]
  simp only
  cases raw : looksRaw (trim keyId) with
  | true => simp
  | false =>
    simp only [Bool.false_eq_true, if_false, true_and]
    cases (cache (trim keyId)).filter fun cached => now < cached.expiresAt with
    | some cached => simp
    | none =>
      simp only
      cases env.resolvedMasterKey with
      | none => simp
      | some masterKey =>
        cases env.apiKeys with
        | none => simp
        | some apiKeys =>
          simp only [Option.bind_some, Option.some.injEq, exists_and_left, exists_eq_left']
          cases apiKeys.get? (trim keyId) with
          | none => simp
          | some row =>
            simp only [Option.bind_some, Option.some.injEq, exists_eq_left']
            rw [← decryptRow_iff]
            cases decryptRow masterKey row tenantId <;> simp

/-! ## Keys that were created -/

section

variable [NumberText] {table : StoredKeys} {input : CreateApiKeyInput}
  {masterKey : Option (KeyInput κ)} {uuid : Uuid} {nonceB64 createdAt : String}
  {created : StoredKey × StoredKeys}

/-- The key a new plaintext is sealed with. -/
def sealingKey (masterKey : Option (KeyInput κ)) (tenantId : String) : Option κ :=
  masterKey.bind fun key => tenantKey key tenantId

/-- The row of a new key opens exactly under the key it was sealed with. -/
theorem created_opens_iff [IdealCipher κ]
    (done : ApiKeyRepository.create table input masterKey uuid nonceB64 createdAt = .ok created)
    (nonce : nonceB64 ≠ "") (clean : trim input.plaintextKey = input.plaintextKey)
    (key : KeyInput κ) (tenantId : String) :
    Opens key created.1 tenantId input.plaintextKey ↔
      ∃ sealing, sealingKey masterKey input.tenantId = some sealing ∧
        sealing ∈ attempts key created.1 tenantId := by
  obtain ⟨-, text, secret, rfl, -, row, -⟩ := ApiKeyRepository.create_ok done
  have ciphertext : created.1.encryptedKeyB64 = Cipher.encrypt
      (Cipher.deriveTenantKey secret input.tenantId : κ) nonceB64 input.plaintextKey := by
    rw [row]
    rfl
  have written : created.1.nonceB64 = nonceB64 := by
    rw [row]
    rfl
  constructor
  · rintro ⟨-, -, sealing, mem, opened⟩
    refine ⟨sealing, ?_, mem⟩
    obtain ⟨opened, kept, -⟩ := Option.map_eq_some_iff.mp opened
    have read := (Option.filter_eq_some_iff.mp kept).1
    rw [ciphertext, written] at read
    obtain ⟨sealed, made, -⟩ := IdealCipher.decrypt_some read
    exact congrArg some (IdealCipher.encrypt_key made)
  · rintro ⟨sealing, made, mem⟩
    obtain rfl : Cipher.deriveTenantKey secret input.tenantId = sealing := Option.some.inj made
    refine ⟨?_, written ▸ nonce, _, mem, ?_⟩
    · rw [ciphertext]
      exact IdealCipher.encrypt_ne_empty _ _ _
    · have unmarked : unmarked input.plaintextKey = input.plaintextKey := by
        rw [← clean, unmarked_trim]
      rw [openRow, ciphertext, written, IdealCipher.decrypt_encrypt, unmarked, Option.filter_some,
        text]
      exact congrArg some clean

/-- The key of creation is the first one tried with the secret of creation, whoever asks. -/
theorem sealing_mem_attempts
    (done : ApiKeyRepository.create table input masterKey uuid nonceB64 createdAt = .ok created)
    {key : KeyInput κ} (same : masterKey = some key) (tenantId : String) :
    ∃ sealing, sealingKey masterKey input.tenantId = some sealing ∧
      sealing ∈ attempts key created.1 tenantId := by
  obtain ⟨tenant, -, secret, given, -, row, -⟩ := ApiKeyRepository.create_ok done
  obtain rfl := Option.some.inj (same.symm.trans given)
  have named : input.tenantId ≠ "" := by
    intro empty
    rw [empty] at tenant
    cases tenant
  refine ⟨Cipher.deriveTenantKey secret input.tenantId, by rw [given]; rfl, ?_⟩
  rw [row]
  simp [attempts, ApiKeyRepository.createdRow, named, tenantKey]

/-- The id of a new key does not pass for a key; and the cache has its plaintext, or nothing,
and the row under the trimmed id opens: the new key's own under its sealing key, or another. -/
def CreatedResolvable (row : StoredKey) (sealing : Option κ) (plaintext : String)
    (cache : TextCache) (tenantId : String) (now : Int) : Prop :=
  looksRaw (trim row.id) = false ∧
    match (cache (trim row.id)).filter fun cached => now < cached.expiresAt with
    | some cached => cached.key = plaintext
    | none => ∃ masterKey apiKeys, env.resolvedMasterKey = some masterKey ∧
        env.apiKeys = some apiKeys ∧
        if trim row.id = row.id then
          ∃ key, sealing = some key ∧ key ∈ attempts masterKey row tenantId
        else
          ∃ other, apiKeys.get? (trim row.id) = some other ∧
            Opens masterKey other tenantId plaintext

/-- **A key that was created**, and whose row is still stored, is resolved to its plaintext
exactly where its id does not pass for a key and the cache or the row yields the plaintext.
Anywhere else its id is returned, or what the cache or another row has. -/
theorem resolve_created_iff [IdealCipher κ] (env : ResolverEnv κ)
    (done : ApiKeyRepository.create table input masterKey uuid nonceB64 createdAt = .ok created)
    (clean : trim input.plaintextKey = input.plaintextKey)
    (stored : ∀ apiKeys, env.apiKeys = some apiKeys →
      apiKeys.get? created.1.id = some created.1)
    (selected : isEncryptedKey
      { id := created.1.id, tenantId := some created.1.tenantId, provider := created.1.provider
        ciphertext := created.1.encryptedKeyB64, nonce := created.1.nonceB64 } = true)
    (cache : TextCache) (tenantId : String) (now : Int) :
    (env.resolvePlaintextKey cache created.1.id tenantId now).1 = .decrypted input.plaintextKey ↔
      env.CreatedResolvable created.1 (sealingKey masterKey input.tenantId) input.plaintextKey cache
        tenantId now := by
  have named : created.1.id ≠ "" := by
    intro empty
    rw [isEncryptedKey, empty] at selected
    cases selected
  have nonce : nonceB64 ≠ "" := by
    obtain ⟨-, -, secret, -, -, row, -⟩ := ApiKeyRepository.create_ok done
    intro empty
    have written : created.1.nonceB64 = "" := by rw [row]; exact empty
    rw [isEncryptedKey, written, Bool.and_eq_true] at selected
    cases selected.2
  rw [env.resolvePlaintextKey_iff cache named, Resolvable, CreatedResolvable]
  refine and_congr_right fun _ => ?_
  cases (cache (trim created.1.id)).filter fun cached => now < cached.expiresAt with
  | some cached => exact Iff.rfl
  | none =>
    refine exists_congr fun key => exists_congr fun apiKeys => ?_
    by_cases trimmed : trim created.1.id = created.1.id
    · rw [if_pos trimmed, trimmed, ← created_opens_iff done nonce clean]
      constructor
      · rintro ⟨row, configured, read, found, opens⟩
        obtain rfl := Option.some.inj ((stored apiKeys read).symm.trans found)
        exact ⟨configured, read, opens⟩
      · rintro ⟨configured, read, opens⟩
        exact ⟨created.1, configured, read, stored apiKeys read, opens⟩
    · rw [if_neg trimmed]
      simp only [exists_and_left]

/-- With the secret it was created with, a trimmed id that does not pass for a key is all it
takes. -/
theorem createdResolvable
    (done : ApiKeyRepository.create table input masterKey uuid nonceB64 createdAt = .ok created)
    (same : env.resolvedMasterKey = masterKey) {apiKeys : StoredKeys}
    (read : env.apiKeys = some apiKeys) (trimmed : trim created.1.id = created.1.id)
    (plain : looksRaw created.1.id = false) {cache : TextCache} {now : Int}
    (fresh : (cache created.1.id).filter (fun cached => now < cached.expiresAt) = none)
    (tenantId : String) :
    env.CreatedResolvable created.1 (sealingKey masterKey input.tenantId) input.plaintextKey cache
      tenantId now := by
  obtain ⟨-, -, secret, given, -⟩ := ApiKeyRepository.create_ok done
  refine ⟨by rw [trimmed, plain], ?_⟩
  rw [trimmed, fresh]
  refine ⟨_, apiKeys, same.trans given, read, ?_⟩
  rw [if_pos rfl]
  exact sealing_mem_attempts done given tenantId

end

/-! ## Ids the repository makes up -/

theorem uuid_char (uuid : Uuid) {c : Char} (mem : c ∈ uuid.text.toList) :
    isWhiteSpace c = false ∧ c ≠ ' ' ∧ c ≠ 'k' := by
  have all : ∀ c ∈ '-' :: hexDigits, isWhiteSpace c = false ∧ c ≠ ' ' ∧ c ≠ 'k' := by
    simp [hexDigits, isWhiteSpace]
  exact all c (uuid.chars c mem)

theorem trim_uuid (uuid : Uuid) : trim uuid.text = uuid.text := by
  have kept : trimChars uuid.text.toList = uuid.text.toList :=
    trimChars_of_no_space fun c mem => (uuid_char uuid mem).1
  rw [trim, kept, String.ofList_toList]

theorem includesChars_space {cs : List Char} (none : ∀ c ∈ cs, c ≠ ' ') :
    includesChars [' '] cs = false := by
  induction cs with
  | nil => rfl
  | cons c rest ih =>
    have apart : ' ' ≠ c := (none c List.mem_cons_self).symm
    rw [includesChars, ih fun other mem => none other (List.mem_cons_of_mem _ mem)]
    simp [List.isPrefixOf, apart]

theorem length_le_utf16 (s : String) : s.toList.length ≤ utf16Length s := by
  unfold utf16Length
  induction s.toList with
  | nil => exact Nat.le_refl _
  | cons c rest ih =>
    simp only [List.length_cons, List.map_cons, List.sum_cons]
    split <;> omega

/-- An id the repository makes up passes for a key. -/
theorem looksRaw_uuid (uuid : Uuid) : looksRaw uuid.text = true := by
  have long : 30 < utf16Length uuid.text := by
    have length := uuid.length
    have units := length_le_utf16 uuid.text
    omega
  have unspaced : includes uuid.text " " = false :=
    includesChars_space fun c mem => (uuid_char uuid mem).2.1
  have other : startsWith uuid.text "key_" = false := by
    unfold startsWith
    cases chars : uuid.text.toList with
    | nil => rfl
    | cons first rest =>
      have apart : first ≠ 'k' := (uuid_char uuid (chars ▸ List.mem_cons_self)).2.2
      simp [List.isPrefixOf, apart.symm]
  simp [looksRaw, long, unspaced, other]

/-- A key stored under an id the repository made up is never resolved: the id is returned. -/
theorem resolve_default (env : ResolverEnv κ) (uuid : Uuid) (cache : TextCache) (tenantId : String)
    (now : Int) :
    env.resolvePlaintextKey cache uuid.text tenantId now = (.asGiven uuid.text, cache) := by
  have named : uuid.text ≠ "" := by
    intro empty
    have length := uuid.length
    rw [empty] at length
    cases length
  simp only [resolvePlaintextKey, if_neg named, trim_uuid, looksRaw_uuid, if_true]

/-! ## A cipher -/

def openTally : Nat → List Char → Option (List Char)
  | 0, '0' :: text => some text
  | key + 1, '1' :: text => openTally key text
  | _, _ => none

def tally (key : Nat) (text : List Char) : List Char := List.replicate key '1' ++ '0' :: text

theorem openTally_tally (key : Nat) (text : List Char) :
    openTally key (tally key text) = some text := by
  induction key with
  | zero => rfl
  | succ key ih => exact ih

theorem openTally_some {key : Nat} {ciphertext text : List Char}
    (opened : openTally key ciphertext = some text) : ciphertext = tally key text := by
  fun_induction openTally key ciphertext with
  | case1 rest =>
    obtain rfl := Option.some.inj opened
    rfl
  | case2 key rest ih => exact congrArg ('1' :: ·) (ih opened)
  | case3 => cases opened

theorem tally_key {key other : Nat} {plaintext text : List Char}
    (same : tally key plaintext = tally other text) : key = other := by
  induction key generalizing other with
  | zero =>
    cases other with
    | zero => rfl
    | succ other =>
      have first := congrArg List.head? same
      simp [tally, List.replicate_succ] at first
  | succ key ih =>
    cases other with
    | zero =>
      have first := congrArg List.head? same
      simp [tally, List.replicate_succ] at first
    | succ other => exact congrArg (· + 1) (ih (List.cons.inj same).2)

/-- The key's number in front of the text, in ones. -/
@[reducible] def tallyCipher : Cipher Nat where
  deriveTenantKey _ tenantId := tenantId.length + 1
  ownKey _ := some 0
  encrypt key _ plaintext := String.ofList (tally key plaintext.toList)
  decrypt key ciphertext _ :=
    (openTally key ciphertext.toList).map fun text => unmarked (String.ofList text)

section

attribute [local instance] tallyCipher integerText

theorem ideal_tallyCipher : IdealCipher Nat where
  decrypt_encrypt key nonce plaintext := by
    simp [Cipher.decrypt, Cipher.encrypt, openTally_tally]
  decrypt_some {key ciphertext nonce plaintext} opened := by
    obtain ⟨text, read, rfl⟩ := Option.map_eq_some_iff.mp opened
    refine ⟨String.ofList text, ?_, rfl⟩
    change ciphertext = String.ofList (tally key (String.ofList text).toList)
    rw [String.toList_ofList, ← openTally_some read, String.ofList_toList]
  encrypt_key {key other nonce plaintext text} same := by
    have lists : tally key plaintext.toList = tally other text.toList := by
      simpa [Cipher.encrypt] using congrArg String.toList same
    exact tally_key lists
  encrypt_ne_empty key nonce plaintext empty := by
    have nil := congrArg String.toList empty
    simp [Cipher.encrypt, tally] at nil

attribute [local instance] ideal_tallyCipher

/-- A key of groq's for `acme`, under the id that is given. -/
def acmeInput (id : Option String) : CreateApiKeyInput where
  id
  tenantId := "acme"
  label := "groq"
  provider := "groq"
  plaintextKey := "gsk_secret"

def passphrase : KeyInput Nat := .material (.passphrase "master")

def acmeUuid : Uuid where
  text := "3f2b8c1e-5d7a-4e9f-8a6b-0c1d2e3f4a5b"
  chars := by simp [hexDigits]
  length := by decide

/-- The database as `create` leaves it, and the master key that was used. -/
def acmeEnv (row : StoredKey) : ResolverEnv Nat where
  masterKey := some passphrase
  kcMasterKey := none
  apiKeys := some (IndexedMap.empty.set row)

/-- A key stored under a default id is not resolved: its id is sent upstream. -/
theorem default_id_returned :
    ∃ created, ApiKeyRepository.create IndexedMap.empty (acmeInput none) (some passphrase) acmeUuid
        "bm9uY2U=" "2026-09-10T00:00:00.000Z" = .ok created ∧
      ((acmeEnv created.1).resolvePlaintextKey (fun _ => none) created.1.id "acme" 0).1 =
        .asGiven "3f2b8c1e-5d7a-4e9f-8a6b-0c1d2e3f4a5b" := by
  refine ⟨_, rfl, ?_⟩
  exact congrArg Prod.fst (resolve_default _ acmeUuid (fun _ => none) "acme" 0)

/-- The row of a key stored under an id of its own. -/
def groqRow : StoredKey :=
  ApiKeyRepository.createdRow (acmeInput (some "key_groq_1"))
    (Cipher.deriveTenantKey (.passphrase "master") "acme" : Nat) acmeUuid "bm9uY2U="
    "2026-09-10T00:00:00.000Z"

theorem groqRow_created :
    ApiKeyRepository.create IndexedMap.empty (acmeInput (some "key_groq_1")) (some passphrase)
      acmeUuid "bm9uY2U=" "2026-09-10T00:00:00.000Z" =
        .ok (groqRow, IndexedMap.empty.set groqRow) :=
  rfl

theorem resolve_created_iff_groq :
    ((acmeEnv groqRow).resolvePlaintextKey (fun _ => none) groqRow.id "acme" 0).1 =
      .decrypted "gsk_secret" := by
  have stored : ∀ apiKeys, (acmeEnv groqRow).apiKeys = some apiKeys →
      apiKeys.get? groqRow.id = some groqRow := by
    intro apiKeys read
    obtain rfl := Option.some.inj read
    rfl
  refine (resolve_created_iff (acmeEnv groqRow) groqRow_created (by decide) stored (by decide)
    (fun _ => none) "acme" 0).mpr ?_
  exact createdResolvable (acmeEnv groqRow) groqRow_created rfl rfl (by decide) (by decide) rfl
    "acme"

end

end ResolverEnv

end KeyCollective
