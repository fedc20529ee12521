import KeyCollective.Pool.KeyPool
import KeyCollective.Url

/-!
# Stored credentials

The `api_keys` table, the dashboard's routes that write it, and the resolver that
turns a key id into a plaintext key. A ciphertext is the text it was sealed from and
the key it opens under, and opens under no other. The checks of a new key that only
refuse a request (attestations, Turnstile, the project probe) are left out.
-/

namespace KeyCollective

/-- A plaintext key. The tenant it was stored for is its history: nothing reads it. -/
structure Credential where
  owner : String
  text : String
deriving DecidableEq, Repr

def Credential.trimmed (credential : Credential) : Credential :=
  { credential with text := trim credential.text }

/-- The keys of `deriveTenantKey`, and the one made of the master secret itself. -/
inductive CipherKey where
  | tenant (tenantId : String)
  | master
deriving DecidableEq, Repr

structure Sealed where
  ciphertextB64 : String
  nonceB64 : String
  key : CipherKey
  content : Credential
deriving DecidableEq, Repr

/-- `none` is the authentication error. -/
def decrypt (ciphertext : Sealed) (key : CipherKey) : Option Credential :=
  if ciphertext.key = key then some ciphertext.content else none

inductive PoolType where
  | «private»
  | community
deriving DecidableEq, Repr

inductive CommunityRoutingStatus where
  | observation
  | active
  | quarantined
  | revoked
deriving DecidableEq, Repr

structure ApiKeyRow where
  id : String
  tenantId : String
  provider : String
  encrypted : Sealed
  rpmLimit : Int
  rpdLimit : Int
  status : String
  poolType : PoolType
  communityRoutingStatus : Option CommunityRoutingStatus
deriving DecidableEq, Repr

abbrev ApiKeys := IndexedMap ApiKeyRow.id

/-- The load query of a pool: the tenant's own healthy keys and the active ones of the
community. -/
def ApiKeys.loadQuery (apiKeys : ApiKeys) (tenantId : String) : List KeyRow :=
  (apiKeys.values.filter fun row =>
      row.status = "Healthy" ∧ (row.tenantId = tenantId ∨
        row.poolType = .community ∧ row.communityRoutingStatus = some .active)).map
    fun row =>
      { id := row.id
        tenantId := row.tenantId
        provider := row.provider
        encryptedKeyB64 := row.encrypted.ciphertextB64
        nonceB64 := row.encrypted.nonceB64
        rpmLimit := row.rpmLimit
        rpdLimit := row.rpdLimit
        status := row.status }

/-! ## The resolver -/

structure CachedKey where
  key : Credential
  expiresAt : Int
deriving DecidableEq, Repr

abbrev DecryptedKeyCache := String → Option CachedKey

def cacheTtlMs : Int := 5 * 60 * 1000

/-- What the resolver returns: the text it was given, or a stored credential. -/
inductive Plaintext where
  | asGiven (text : String)
  | stored (credential : Credential)
deriving DecidableEq, Repr

/-- The text looks like a provider's key already. -/
def looksRaw (trimmed : String) : Bool :=
  startsWith trimmed "AIza" || startsWith trimmed "gsk_" || startsWith trimmed "sk-" ||
    (!startsWith trimmed "key_" && 30 < utf16Length trimmed && !includes trimmed " ")

/-- The keys the resolver tries on a row, in order. -/
def decryptionKeys (row : ApiKeyRow) (tenantId : String) : List CipherKey :=
  (if row.tenantId ≠ "" then [.tenant row.tenantId] else []) ++
    (if tenantId ≠ "" ∧ tenantId ≠ row.tenantId then [.tenant tenantId] else []) ++
    [.master, .tenant "default"]

/-- The first key that opens the row to a text that is not blank. -/
def decryptRow (row : ApiKeyRow) (tenantId : String) : Option Credential :=
  if row.encrypted.ciphertextB64 = "" ∨ row.encrypted.nonceB64 = "" then none
  else (decryptionKeys row tenantId).findSome? fun key =>
    match decrypt row.encrypted key with
    | some decrypted => if isBlank decrypted.text then none else some decrypted.trimmed
    | none => none

def resolvePlaintextKey (apiKeys : ApiKeys) (cache : DecryptedKeyCache) (keyId tenantId : String)
    (now : Int) : Plaintext × DecryptedKeyCache :=
  if keyId = "" then (.asGiven keyId, cache)
  else
    let trimmed := trim keyId
    if looksRaw trimmed then (.asGiven trimmed, cache)
    else match (cache trimmed).filter (now < ·.expiresAt) with
      | some cached => (.stored cached.key, cache)
      | none =>
        match (apiKeys.get? trimmed).bind (decryptRow · tenantId) with
        | some decrypted =>
          (.stored decrypted,
            Function.update cache trimmed (some ⟨decrypted, now + cacheTtlMs⟩))
        | none => (.asGiven trimmed, cache)

/-! ## The dashboard -/

/-- Only these accounts may contribute to the community pool. -/
def mayContribute (tenantId : String) : Bool := startsWith tenantId "usr_gh_" || tenantId = "admin"

/-- `tenantId === "admin" ? (headerTenant || "default") : tenantId`. -/
def targetTenant (tenantId : String) (headerTenant : Option String) : String :=
  if tenantId = "admin" then
    match headerTenant.filter (· ≠ "") with
    | some headerTenant => headerTenant
    | none => "default"
  else tenantId

structure PostKeyBody where
  provider : String
  key : String
  /-- The limits and the priority, their defaults filled in. -/
  rpmLimit : Int
  rpdLimit : Int
  priority : Int
  poolType : Option String

/-- What the host makes up for a new key: the clock in base 36, three random bytes, and the
nonce with the ciphertext it yields. -/
structure Entropy where
  stamp : String
  bytes : List (Fin 256)
  three : bytes.length = 3
  ciphertextB64 : String
  nonceB64 : String

/-- `byte.toString(16).padStart(2, "0")` of each byte. -/
def hexOfBytes (bytes : List (Fin 256)) : List Char :=
  bytes.flatMap fun byte => [hexDigit (byte / 16), hexDigit (byte % 16)]

def newKeyId (provider : String) (entropy : Entropy) : String :=
  "key_" ++ provider ++ "_" ++ entropy.stamp ++ "_" ++ String.ofList (hexOfBytes entropy.bytes)

theorem decryptRow_some {row : ApiKeyRow} {tenantId : String} {credential : Credential}
    (decrypted : decryptRow row tenantId = some credential) :
    credential = row.encrypted.content.trimmed := by
  unfold decryptRow at decrypted
  split_ifs at decrypted
  obtain ⟨key, -, opened⟩ := List.exists_of_findSome?_eq_some decrypted
  unfold decrypt at opened
  split_ifs at opened
  simp only at opened
  split_ifs at opened
  exact (Option.some.inj opened).symm

theorem hexDigit_not_space (n : Nat) : isWhiteSpace (hexDigit n) = false := by
  have all : ∀ c ∈ hexDigits, isWhiteSpace c = false := by
    simp [hexDigits, isWhiteSpace]
  unfold hexDigit
  rw [List.getD_eq_getElem?_getD]
  cases found : hexDigits[n]? with
  | none => decide
  | some c => exact all c (List.mem_of_getElem? found)

/-- The host trims nothing off an id it has made up. -/
theorem trim_newKeyId (provider : String) (entropy : Entropy) :
    trim (newKeyId provider entropy) = newKeyId provider entropy := by
  obtain ⟨stamp, bytes, three, ciphertext, nonce⟩ := entropy
  obtain ⟨a, b, c, rfl⟩ := List.length_eq_three.mp three
  have chars : (newKeyId provider ⟨stamp, [a, b, c], three, ciphertext, nonce⟩).toList =
      'k' :: (("ey_".toList ++ provider.toList ++ "_".toList ++ stamp.toList ++ "_".toList ++
        [hexDigit (a / 16), hexDigit (a % 16), hexDigit (b / 16), hexDigit (b % 16),
          hexDigit (c / 16)]) ++ [hexDigit (c % 16)]) := by
    simp [newKeyId, hexOfBytes]
  rw [trim, chars, trimChars_eq_self _ (by decide) (hexDigit_not_space _), ← chars,
    String.ofList_toList]

variable [Host]

def rowPoolType (poolType : Option String) : PoolType :=
  if poolType.map Host.toUpperCase = some "COMMUNITY" then .community else .private

def newRow (target : String) (body : PostKeyBody) (entropy : Entropy) : ApiKeyRow where
  id := newKeyId body.provider entropy
  tenantId := target
  provider := if body.provider = "gemini" then "google" else body.provider
  encrypted :=
    { ciphertextB64 := entropy.ciphertextB64
      nonceB64 := entropy.nonceB64
      key := .tenant target
      content := ⟨target, trim body.key⟩ }
  rpmLimit := body.rpmLimit
  rpdLimit := body.rpdLimit
  status := "Healthy"
  poolType := rowPoolType body.poolType
  communityRoutingStatus :=
    if rowPoolType body.poolType = .community then some .observation else none

/-- The row a request to create a key inserts. The insertion fails on an id that exists. -/
def handlePostKeys (apiKeys : ApiKeys) (tenantId : String) (headerTenant : Option String)
    (body : PostKeyBody) (entropy : Entropy) : Option ApiKeyRow :=
  if tenantId = "" ∨ tenantId = "anonymous" ∨ tenantId = "guest" then none
  else if isBlank body.key then none
  else if body.poolType = some "COMMUNITY" ∧ ¬mayContribute tenantId then none
  else
    let row := newRow (targetTenant tenantId headerTenant) body entropy
    if apiKeys.has row.id then none else some row

/-- The key the route then posts to the target tenant's pool. -/
def poolKey (row : ApiKeyRow) (priority : Int) : EncryptedKey where
  id := row.id
  tenantId := some row.tenantId
  provider := row.provider
  ciphertext := row.encrypted.ciphertextB64
  nonce := row.encrypted.nonceB64
  priority := some priority
  rpmLimit := some row.rpmLimit
  rpdLimit := some row.rpdLimit
  status := some row.status

/-- `none` is a type the route rejects. -/
def parsePoolType (poolType : Option String) : Option PoolType :=
  match poolType.map Host.toUpperCase with
  | some "COMMUNITY" => some .community
  | some "PRIVATE" => some .private
  | _ => none

/-- The row a switch leaves in place of one it may change. A row of `default` becomes the
caller's. -/
def switchRow (tenantId : String) (poolType : PoolType) (row : ApiKeyRow) : Option ApiKeyRow :=
  let switched := { row with
    poolType
    communityRoutingStatus := if poolType = .community then some .observation else none }
  if tenantId = "admin" then some switched
  else if row.tenantId = tenantId ∨ row.tenantId = "default" then
    some { switched with tenantId }
  else none

/-- The table after a switch; `none` when the route refuses it. -/
def handlePoolMode (apiKeys : ApiKeys) (tenantId keyId : String) (frozen : Bool)
    (poolType : Option String) : Option ApiKeys :=
  if keyId = "" ∨ frozen then none
  else match parsePoolType poolType with
    | none => none
    | some poolType =>
      if poolType = .community ∧ ¬mayContribute tenantId then none
      else match (apiKeys.get? keyId).bind (switchRow tenantId poolType) with
        | some row => some (apiKeys.set row)
        | none => some apiKeys

theorem handlePostKeys_some {apiKeys : ApiKeys} {tenantId : String}
    {headerTenant : Option String} {body : PostKeyBody} {entropy : Entropy} {row : ApiKeyRow}
    (created : handlePostKeys apiKeys tenantId headerTenant body entropy = some row) :
    row = newRow (targetTenant tenantId headerTenant) body entropy ∧
      apiKeys.has row.id = false := by
  unfold handlePostKeys at created
  simp only at created
  split_ifs at created with _ _ _ present
  obtain rfl := Option.some.inj created
  exact ⟨rfl, by simpa using present⟩

theorem handlePostKeys_accepted {apiKeys : ApiKeys} {tenantId : String}
    {headerTenant : Option String} {body : PostKeyBody} {entropy : Entropy} {row : ApiKeyRow}
    (created : handlePostKeys apiKeys tenantId headerTenant body entropy = some row) :
    tenantId ≠ "" ∧ isBlank body.key = false := by
  unfold handlePostKeys at created
  split_ifs at created with anonymous blank
  exact ⟨fun none => anonymous (Or.inl none), Bool.eq_false_iff.mpr blank⟩

omit [Host] in
theorem targetTenant_ne_empty {tenantId : String} (named : tenantId ≠ "")
    (headerTenant : Option String) : targetTenant tenantId headerTenant ≠ "" := by
  unfold targetTenant
  split
  · split
    · rename_i header given
      exact of_decide_eq_true (Option.filter_eq_some_iff.mp given).2
    · decide
  · exact named

omit [Host] in
theorem switchRow_some {tenantId : String} {poolType : PoolType} {row switched : ApiKeyRow}
    (allowed : switchRow tenantId poolType row = some switched) :
    switched.id = row.id ∧ switched.encrypted = row.encrypted ∧ switched.poolType = poolType ∧
      (switched.tenantId = row.tenantId ∨
        tenantId ≠ "admin" ∧ switched.tenantId = tenantId ∧ row.tenantId = "default") := by
  unfold switchRow at allowed
  by_cases admin : tenantId = "admin"
  · rw [if_pos admin] at allowed
    obtain rfl := Option.some.inj allowed
    exact ⟨rfl, rfl, rfl, Or.inl rfl⟩
  · rw [if_neg admin] at allowed
    by_cases reached : row.tenantId = tenantId ∨ row.tenantId = "default"
    · rw [if_pos reached] at allowed
      obtain rfl := Option.some.inj allowed
      rcases reached with mine | unowned
      · exact ⟨rfl, rfl, rfl, Or.inl mine.symm⟩
      · exact ⟨rfl, rfl, rfl, Or.inr ⟨admin, rfl, unowned⟩⟩
    · rw [if_neg reached] at allowed
      cases allowed

omit [Host] in
theorem switchRow_status {tenantId : String} {type : PoolType} {row switched : ApiKeyRow}
    (allowed : switchRow tenantId type row = some switched) : switched.status = row.status := by
  unfold switchRow at allowed
  simp only at allowed
  split_ifs at allowed
  all_goals rw [← Option.some.inj allowed]

/-- A switch that is answered with success changes one row or none. -/
theorem handlePoolMode_some {apiKeys switchedKeys : ApiKeys} {tenantId keyId : String}
    {frozen : Bool} {poolType : Option String}
    (done : handlePoolMode apiKeys tenantId keyId frozen poolType = some switchedKeys) :
    ∃ type, parsePoolType poolType = some type ∧
      (((apiKeys.get? keyId).bind (switchRow tenantId type) = none ∧ switchedKeys = apiKeys) ∨
        ∃ row switched, apiKeys.get? keyId = some row ∧
          switchRow tenantId type row = some switched ∧ switchedKeys = apiKeys.set switched) := by
  unfold handlePoolMode at done
  split_ifs at done
  cases parsed : parsePoolType poolType with
  | none => simp [parsed] at done
  | some type =>
    simp only [parsed] at done
    split_ifs at done
    refine ⟨type, rfl, ?_⟩
    cases changed : (apiKeys.get? keyId).bind (switchRow tenantId type) with
    | none =>
      rw [changed] at done
      exact Or.inl ⟨rfl, (Option.some.inj done).symm⟩
    | some switched =>
      rw [changed] at done
      obtain ⟨row, found, allowed⟩ := Option.bind_eq_some_iff.mp changed
      exact Or.inr ⟨row, switched, found, allowed, (Option.some.inj done).symm⟩

end KeyCollective
