import KeyCollective.Worker.KeyRoutes

/-!
# Rotated secrets

A rotation seals a new secret into a row that exists. The key it seals under is that of
the tenant the caller acts for; the tenant column of the row stays as it is. A stored key
is of use as long as the resolver finds, for every tenant that may dispatch it, the key it
opens under.
-/

namespace KeyCollective

/-- What `encrypt` yields: a ciphertext and a nonce, neither of them empty. -/
structure Encryption where
  ciphertextB64 : String
  nonceB64 : String
  written : ciphertextB64 ≠ "" ∧ nonceB64 ≠ ""

/-- The key id in a path `/api/keys/:id/rotate`. -/
@[irreducible] def rotatedKeyId (pathname : String) : String :=
  trim (remove (remove pathname "/api/keys/") "/rotate")

/-- `(tenant_id = ? OR tenant_id = 'default')`, which the admin need not meet. -/
def mayRotate (tenantId : String) (row : ApiKeyRow) : Bool :=
  tenantId = "admin" ∨ row.tenantId = tenantId ∨ row.tenantId = "default"

/-- The texts of a rotation are accepted. -/
def rotationAccepted (tenantId pathname : String) (newKey : Option String) : Bool :=
  rotatedKeyId pathname ≠ "" ∧ ¬(tenantId = "" ∨ tenantId = "anonymous" ∨ tenantId = "guest") ∧
    trim (newKey.getD "") ≠ ""

def rotateRow (target rawKey : String) (encryption : Encryption) (row : ApiKeyRow) : ApiKeyRow :=
  { row with
    encrypted :=
      { ciphertextB64 := encryption.ciphertextB64
        nonceB64 := encryption.nonceB64
        key := .tenant target
        content := ⟨target, rawKey⟩ } }

theorem rotateRow_id (target rawKey : String) (encryption : Encryption) (row : ApiKeyRow) :
    (rotateRow target rawKey encryption row).id = row.id :=
  rfl

/-- The table after a rotation; `none` when the route refuses it. -/
def handleRotateKeySecret (apiKeys : ApiKeys) (tenantId : String) (headerTenant : Option String)
    (pathname : String) (newKey : Option String) (encryption : Encryption) : Option ApiKeys :=
  let keyId := rotatedKeyId pathname
  let rawKey := trim (newKey.getD "")
  if rotationAccepted tenantId pathname newKey then
    if tenantId ≠ "admin" ∧ ¬(apiKeys.get? keyId).any (mayRotate tenantId) then none
    else
      some (apiKeys.update (fun row => row.id = keyId ∧ mayRotate tenantId row)
        (rotateRow (targetTenant tenantId headerTenant) rawKey encryption)
        (rotateRow_id _ _ encryption))
  else none

/-- The text of a resolved key, when it was decrypted. -/
def Plaintext.decrypted : Plaintext → Option String
  | .stored credential => some credential.text
  | .asGiven _ => none

/-- The tenant's requests may be dispatched on the row. -/
def ApiKeyRow.MayDispatch (row : ApiKeyRow) (tenantId : String) : Prop :=
  row.tenantId = tenantId ∨
    row.poolType = .community ∧ row.communityRoutingStatus = some .active

/-! ## The table and the secrets -/

/-- The table, and the secret last supplied for each id. -/
structure Vault where
  apiKeys : ApiKeys
  supplied : String → Option String

/-- What the dashboard writes, and the administrator's switches of a routing status. -/
inductive VaultOp where
  | createKey (tenantId : String) (headerTenant : Option String) (body : PostKeyBody)
      (entropy : Entropy) (written : entropy.ciphertextB64 ≠ "" ∧ entropy.nonceB64 ≠ "")
  | rotateSecret (tenantId : String) (headerTenant : Option String) (pathname : String)
      (newKey : Option String) (encryption : Encryption)
  | poolMode (tenantId keyId : String) (frozen : Bool) (poolType : Option String)
  | routingStatus (keyId : String) (status : Option String)
  | approveAll

namespace Vault

def empty : Vault := ⟨.empty, fun _ => none⟩

section Steps

variable [Host]

def createKey (vault : Vault) (tenantId : String) (headerTenant : Option String)
    (body : PostKeyBody) (entropy : Entropy) : Vault :=
  match handlePostKeys vault.apiKeys tenantId headerTenant body entropy with
  | none => vault
  | some row =>
    ⟨vault.apiKeys.set row, Function.update vault.supplied row.id (some (trim body.key))⟩

def rotateSecret (vault : Vault) (tenantId : String) (headerTenant : Option String)
    (pathname : String) (newKey : Option String) (encryption : Encryption) : Vault :=
  match handleRotateKeySecret vault.apiKeys tenantId headerTenant pathname newKey encryption with
  | none => vault
  | some apiKeys =>
    ⟨apiKeys, Function.update vault.supplied (rotatedKeyId pathname)
      (some (trim (newKey.getD "")))⟩

def poolMode (vault : Vault) (tenantId keyId : String) (frozen : Bool)
    (poolType : Option String) : Vault :=
  match handlePoolMode vault.apiKeys tenantId keyId frozen poolType with
  | none => vault
  | some apiKeys => { vault with apiKeys }

def step (vault : Vault) : VaultOp → Vault
  | .createKey tenantId headerTenant body entropy _ =>
    vault.createKey tenantId headerTenant body entropy
  | .rotateSecret tenantId headerTenant pathname newKey encryption =>
    vault.rotateSecret tenantId headerTenant pathname newKey encryption
  | .poolMode tenantId keyId frozen poolType => vault.poolMode tenantId keyId frozen poolType
  | .routingStatus keyId status =>
    { vault with apiKeys := handleRoutingStatus vault.apiKeys keyId status }
  | .approveAll => { vault with apiKeys := vault.apiKeys.map World.approve World.approve_id }

end Steps

/-- With an empty cache, the resolver decrypts every stored key to the secret last supplied
for it, for every tenant that may dispatch it. -/
def Decryptable (vault : Vault) : Prop :=
  ∀ row ∈ vault.apiKeys.values, ∀ tenantId, row.MayDispatch tenantId → ∀ now plaintext,
    vault.supplied row.id = some plaintext →
      (resolvePlaintextKey vault.apiKeys (fun _ => none) row.id tenantId now).1.decrypted =
        some plaintext

/-- A rotation that is carried out on a row acts for the row's tenant, or for `default`. -/
def Apt (vault : Vault) : VaultOp → Prop
  | .rotateSecret tenantId headerTenant pathname newKey _ =>
    ∀ row, vault.apiKeys.get? (rotatedKeyId pathname) = some row → mayRotate tenantId row = true →
      rotationAccepted tenantId pathname newKey = true →
        targetTenant tenantId headerTenant = row.tenantId ∨
          targetTenant tenantId headerTenant = "default"
  | _ => True

end Vault

/-! ## The keys a row opens under -/

theorem mem_decryptionKeys {row : ApiKeyRow} {tenantId : String} {key : CipherKey} :
    key ∈ decryptionKeys row tenantId ↔
      (row.tenantId ≠ "" ∧ key = .tenant row.tenantId) ∨
        ((tenantId ≠ "" ∧ tenantId ≠ row.tenantId) ∧ key = .tenant tenantId) ∨
        key = .master ∨ key = .tenant "default" := by
  unfold decryptionKeys
  by_cases named : row.tenantId = "" <;>
    by_cases other : tenantId ≠ "" ∧ tenantId ≠ row.tenantId <;> simp [named, other]

/-- What the row's own tenant can open, every tenant can. -/
theorem decryptionKeys_own {row : ApiKeyRow} {key : CipherKey}
    (own : key ∈ decryptionKeys row row.tenantId) (tenantId : String) :
    key ∈ decryptionKeys row tenantId := by
  rw [mem_decryptionKeys] at own ⊢
  rcases own with own | ⟨⟨-, differs⟩, -⟩ | fallback
  · exact Or.inl own
  · exact absurd rfl differs
  · exact Or.inr (Or.inr fallback)

/-- A row the dashboard wrote. -/
structure Vault.Kept (supplied : String → Option String) (row : ApiKeyRow) : Prop where
  made : ∃ provider entropy, row.id = newKeyId provider entropy
  secret : supplied row.id = some row.encrypted.content.text
  text : isBlank row.encrypted.content.text = false
  trimmed : trim row.encrypted.content.text = row.encrypted.content.text
  written : row.encrypted.ciphertextB64 ≠ "" ∧ row.encrypted.nonceB64 ≠ ""

theorem decryptRow_kept {supplied : String → Option String} {row : ApiKeyRow}
    (kept : Vault.Kept supplied row) (tenantId : String) :
    (decryptRow row tenantId).map Credential.text =
      if row.encrypted.key ∈ decryptionKeys row tenantId then
        some row.encrypted.content.text else none := by
  have stored : ¬(row.encrypted.ciphertextB64 = "" ∨ row.encrypted.nonceB64 = "") := by
    have := kept.written
    tauto
  unfold decryptRow
  rw [if_neg stored]
  induction decryptionKeys row tenantId with
  | nil => rfl
  | cons key rest ih =>
    rw [List.findSome?_cons]
    by_cases opens : row.encrypted.key = key
    · simp [decrypt, opens, kept.text, Credential.trimmed, kept.trimmed]
    · have shut : decrypt row.encrypted key = none := if_neg opens
      simp only [shut, ih, List.mem_cons, opens, false_or]

theorem newKeyId_starts (provider : String) (entropy : Entropy) :
    ∃ rest, (newKeyId provider entropy).toList = 'k' :: 'e' :: 'y' :: '_' :: rest :=
  ⟨_, by simp only [newKeyId, String.toList_append, List.append_assoc]; rfl⟩

theorem newKeyId_not_raw (provider : String) (entropy : Entropy) :
    looksRaw (newKeyId provider entropy) = false := by
  obtain ⟨rest, chars⟩ := newKeyId_starts provider entropy
  simp [looksRaw, startsWith, chars, List.isPrefixOf]

theorem newKeyId_ne_empty (provider : String) (entropy : Entropy) :
    newKeyId provider entropy ≠ "" := by
  intro empty
  obtain ⟨rest, chars⟩ := newKeyId_starts provider entropy
  rw [empty] at chars
  cases chars

namespace Vault

/-- The resolver decrypts a row just when it tries the key the row was sealed under. -/
theorem Kept.resolves {supplied : String → Option String} {apiKeys : ApiKeys} {row : ApiKeyRow}
    (kept : Kept supplied row) (mem : row ∈ apiKeys.values) (tenantId : String) (now : Int) :
    (resolvePlaintextKey apiKeys (fun _ => none) row.id tenantId now).1.decrypted =
      if row.encrypted.key ∈ decryptionKeys row tenantId then
        some row.encrypted.content.text else none := by
  obtain ⟨provider, entropy, made⟩ := kept.made
  have found : (apiKeys.get? (newKeyId provider entropy)).bind (decryptRow · tenantId) =
      decryptRow row tenantId := by
    rw [← made, IndexedMap.get?_of_mem mem]
    rfl
  rw [← decryptRow_kept kept]
  simp only [resolvePlaintextKey, made, if_neg (newKeyId_ne_empty _ _), trim_newKeyId,
    newKeyId_not_raw, Bool.false_eq_true, ↓reduceIte, Option.filter_none, found]
  cases decryptRow row tenantId <;> rfl

/-- Every row was written by the dashboard. -/
def AllKept (vault : Vault) : Prop :=
  ∀ row ∈ vault.apiKeys.values, Kept vault.supplied row

def AllOpen (vault : Vault) : Prop :=
  ∀ row ∈ vault.apiKeys.values, row.encrypted.key ∈ decryptionKeys row row.tenantId

theorem decryptable_iff {vault : Vault} (kept : vault.AllKept) :
    vault.Decryptable ↔ vault.AllOpen := by
  constructor
  · intro decryptable row mem
    have resolved := decryptable row mem row.tenantId (Or.inl rfl) 0 _ (kept row mem).secret
    rw [(kept row mem).resolves mem] at resolved
    by_contra closed
    rw [if_neg closed] at resolved
    cases resolved
  · intro opens row mem tenantId _ now plaintext supplied
    rw [(kept row mem).resolves mem, if_pos (decryptionKeys_own (opens row mem) tenantId),
      ← (kept row mem).secret, supplied]

/-! ## What a step writes -/

section Steps

variable {vault : Vault}

/-- A row that took the place of another under the same secret. An unowned row may have got
an owner. -/
structure Rewrites (row old : ApiKeyRow) : Prop where
  id : row.id = old.id
  encrypted : row.encrypted = old.encrypted
  owner : row.tenantId = old.tenantId ∨ old.tenantId = "default"

theorem Kept.rewrites {supplied : String → Option String} {row old : ApiKeyRow}
    (kept : Kept supplied old) (rewrites : Rewrites row old) : Kept supplied row := by
  obtain ⟨made, secret, text, trimmed, written⟩ := kept
  rw [← rewrites.id] at made secret
  rw [← rewrites.encrypted] at secret text trimmed written
  exact ⟨made, secret, text, trimmed, written⟩

theorem Rewrites.opens {row old : ApiKeyRow} (rewrites : Rewrites row old)
    (opens : old.encrypted.key ∈ decryptionKeys old old.tenantId) :
    row.encrypted.key ∈ decryptionKeys row row.tenantId := by
  rw [rewrites.encrypted]
  rw [mem_decryptionKeys] at opens ⊢
  rcases rewrites.owner with same | unowned
  · rw [same]
    exact opens
  · rw [unowned] at opens
    refine Or.inr (Or.inr ?_)
    rcases opens with ⟨-, own⟩ | ⟨⟨-, differs⟩, -⟩ | fallback
    · exact Or.inr own
    · exact absurd rfl differs
    · exact fallback

theorem update_rewrites {apiKeys : ApiKeys} {named : ApiKeyRow → Bool}
    {set : ApiKeyRow → ApiKeyRow} (same : ∀ row, (set row).id = row.id)
    (rewrites : ∀ old, Rewrites (set old) old) :
    ∀ row ∈ (apiKeys.update named set same).values, ∃ old ∈ apiKeys.values, Rewrites row old := by
  intro row mem
  obtain ⟨old, had, ⟨rfl, -⟩ | ⟨rfl, -⟩⟩ := ApiKeys.mem_update same mem
  · exact ⟨_, had, rfl, rfl, Or.inl rfl⟩
  · exact ⟨old, had, rewrites old⟩

theorem handleRoutingStatus_rewrites (apiKeys : ApiKeys) (keyId : String)
    (status : Option String) :
    ∀ row ∈ (handleRoutingStatus apiKeys keyId status).values,
      ∃ old ∈ apiKeys.values, Rewrites row old := by
  unfold handleRoutingStatus
  split_ifs
  · exact update_rewrites _ fun _ => ⟨rfl, rfl, Or.inl rfl⟩
  · exact update_rewrites _ fun _ => ⟨rfl, rfl, Or.inl rfl⟩
  · exact update_rewrites _ fun _ => ⟨rfl, rfl, Or.inl rfl⟩
  · exact fun row mem => ⟨row, mem, rfl, rfl, Or.inl rfl⟩

theorem approveAll_rewrites (apiKeys : ApiKeys) :
    ∀ row ∈ (apiKeys.map World.approve World.approve_id).values,
      ∃ old ∈ apiKeys.values, Rewrites row old := by
  intro row mem
  obtain ⟨old, had, rfl⟩ := List.mem_map.mp mem
  refine ⟨old, had, World.approve_id old, ?_, Or.inl ?_⟩
  · unfold World.approve
    split <;> rfl
  · unfold World.approve
    split <;> rfl

variable [Host]

theorem handlePoolMode_rewrites {apiKeys switched : ApiKeys} {tenantId keyId : String}
    {frozen : Bool} {poolType : Option String}
    (done : handlePoolMode apiKeys tenantId keyId frozen poolType = some switched) :
    ∀ row ∈ switched.values, ∃ old ∈ apiKeys.values, Rewrites row old := by
  intro row mem
  obtain ⟨type, -, ⟨-, rfl⟩ | ⟨old, new, found, allowed, rfl⟩⟩ := handlePoolMode_some done
  · exact ⟨row, mem, rfl, rfl, Or.inl rfl⟩
  · rcases IndexedMap.mem_set mem with rfl | mem
    · obtain ⟨id, encrypted, -, owner⟩ := switchRow_some allowed
      refine ⟨old, (IndexedMap.get?_some found).1, id, encrypted, ?_⟩
      rcases owner with same | ⟨-, -, unowned⟩
      · exact Or.inl same
      · exact Or.inr unowned
    · exact ⟨row, mem, rfl, rfl, Or.inl rfl⟩

omit [Host] in
/-- A rotation that is carried out writes its secret into the row it names. -/
theorem handleRotateKeySecret_some {apiKeys rotated : ApiKeys} {tenantId pathname : String}
    {headerTenant newKey : Option String} {encryption : Encryption}
    (done : handleRotateKeySecret apiKeys tenantId headerTenant pathname newKey encryption =
      some rotated) :
    rotationAccepted tenantId pathname newKey = true ∧
      (∀ row, apiKeys.get? (rotatedKeyId pathname) = some row → mayRotate tenantId row = true) ∧
      rotated = apiKeys.update
        (fun row => row.id = rotatedKeyId pathname ∧ mayRotate tenantId row)
        (rotateRow (targetTenant tenantId headerTenant) (trim (newKey.getD "")) encryption)
        (rotateRow_id _ _ encryption) := by
  unfold handleRotateKeySecret at done
  simp only at done
  split_ifs at done with accepted refused
  refine ⟨accepted, fun row found => ?_, (Option.some.inj done).symm⟩
  rw [found, Option.any_some] at refused
  by_cases admin : tenantId = "admin"
  · simp [mayRotate, admin]
  · by_contra other
    exact refused ⟨admin, other⟩

omit [Host] in
theorem handleRotateKeySecret_row {apiKeys : ApiKeys} {tenantId pathname : String}
    (headerTenant : Option String) {newKey : Option String} (encryption : Encryption)
    {row : ApiKeyRow} (found : apiKeys.get? (rotatedKeyId pathname) = some row)
    (allowed : mayRotate tenantId row = true)
    (accepted : rotationAccepted tenantId pathname newKey = true) :
    ∃ rotated, handleRotateKeySecret apiKeys tenantId headerTenant pathname newKey encryption =
      some rotated := by
  unfold handleRotateKeySecret
  simp only [accepted, found, Option.any_some, allowed, not_true_eq_false, and_false, ↓reduceIte]
  exact ⟨_, rfl⟩

theorem createKey_kept {tenantId : String} {headerTenant : Option String} {body : PostKeyBody}
    {entropy : Entropy} (written : entropy.ciphertextB64 ≠ "" ∧ entropy.nonceB64 ≠ "")
    (kept : vault.AllKept) : (vault.createKey tenantId headerTenant body entropy).AllKept := by
  unfold createKey
  split
  · exact kept
  · rename_i created
    obtain ⟨rfl, -⟩ := handlePostKeys_some created
    have text := (handlePostKeys_accepted created).2
    intro row mem
    rcases IndexedMap.mem_set_other mem with rfl | ⟨mem, other⟩
    · exact ⟨⟨body.provider, entropy, rfl⟩, Function.update_self .., (isBlank_trim _).mpr text,
        trim_trim _, written⟩
    · obtain ⟨made, secret, text, trimmed, written⟩ := kept row mem
      exact ⟨made, (Function.update_of_ne other _ _).trans secret, text, trimmed, written⟩

omit [Host] in
theorem rotateSecret_kept {tenantId pathname : String} {headerTenant newKey : Option String}
    {encryption : Encryption} (kept : vault.AllKept) :
    (vault.rotateSecret tenantId headerTenant pathname newKey encryption).AllKept := by
  unfold rotateSecret
  split
  · exact kept
  · rename_i done
    obtain ⟨accepted, allowed, rfl⟩ := handleRotateKeySecret_some done
    have given : trim (newKey.getD "") ≠ "" := (of_decide_eq_true accepted).2.2
    intro row mem
    obtain ⟨old, had, ⟨rfl, missed⟩ | ⟨rfl, hit⟩⟩ :=
      ApiKeys.mem_update (rotateRow_id _ _ encryption) mem
    · have other : row.id ≠ rotatedKeyId pathname := by
        intro named
        have owned := allowed row (named ▸ IndexedMap.get?_of_mem had)
        exact of_decide_eq_false missed ⟨named, owned⟩
      obtain ⟨made, secret, text, trimmed, written⟩ := kept row had
      exact ⟨made, (Function.update_of_ne other _ _).trans secret, text, trimmed, written⟩
    · have named : old.id = rotatedKeyId pathname := (of_decide_eq_true hit).1
      refine ⟨(kept old had).made, ?_, ?_, trim_trim _, encryption.written⟩
      · change Function.update vault.supplied _ _ old.id = _
        rw [named, Function.update_self]
        rfl
      · exact isBlank_eq_false (by rw [rotateRow, trim_trim]; exact given)

omit [Host] in
theorem rewritten_kept {apiKeys : ApiKeys} (kept : vault.AllKept)
    (rewrites : ∀ row ∈ apiKeys.values, ∃ old ∈ vault.apiKeys.values, Rewrites row old) :
    AllKept { vault with apiKeys } := by
  intro row mem
  obtain ⟨old, had, same⟩ := rewrites row mem
  exact (kept old had).rewrites same

theorem step_allKept (kept : vault.AllKept) (op : VaultOp) : (vault.step op).AllKept := by
  cases op with
  | createKey tenantId headerTenant body entropy written => exact createKey_kept written kept
  | rotateSecret tenantId headerTenant pathname newKey encryption => exact rotateSecret_kept kept
  | poolMode tenantId keyId frozen poolType =>
    simp only [step, poolMode]
    split
    · exact kept
    · rename_i done
      exact rewritten_kept kept (handlePoolMode_rewrites done)
  | routingStatus keyId status =>
    exact rewritten_kept kept (handleRoutingStatus_rewrites vault.apiKeys keyId status)
  | approveAll => exact rewritten_kept kept (approveAll_rewrites vault.apiKeys)

omit [Host] in
/-- A row is opened by its own tenant when it was sealed for that tenant or for `default`, and
for no other. -/
theorem opens_sealed {row : ApiKeyRow} {target : String} (named : target ≠ "")
    (sealed : row.encrypted.key = .tenant target) :
    row.encrypted.key ∈ decryptionKeys row row.tenantId ↔
      target = row.tenantId ∨ target = "default" := by
  rw [mem_decryptionKeys, sealed]
  simp only [CipherKey.tenant.injEq, ne_eq, not_true_eq_false, and_false, false_and,
    reduceCtorEq, false_or]
  constructor
  · rintro (⟨-, own⟩ | fallback)
    · exact Or.inl own
    · exact Or.inr fallback
  · rintro (own | fallback)
    · exact Or.inl ⟨own ▸ named, own⟩
    · exact Or.inr fallback

theorem createKey_open {tenantId : String} {headerTenant : Option String} {body : PostKeyBody}
    {entropy : Entropy} (opens : vault.AllOpen) :
    (vault.createKey tenantId headerTenant body entropy).AllOpen := by
  unfold createKey
  split
  · exact opens
  · rename_i created
    obtain ⟨rfl, -⟩ := handlePostKeys_some created
    have named := targetTenant_ne_empty (handlePostKeys_accepted created).1 headerTenant
    intro row mem
    rcases IndexedMap.mem_set mem with rfl | mem
    · exact (opens_sealed named rfl).mpr (Or.inl rfl)
    · exact opens row mem

omit [Host] in
theorem rotateSecret_open_iff {tenantId pathname : String} {headerTenant newKey : Option String}
    {encryption : Encryption} (opens : vault.AllOpen) :
    vault.Apt (.rotateSecret tenantId headerTenant pathname newKey encryption) ↔
      (vault.rotateSecret tenantId headerTenant pathname newKey encryption).AllOpen := by
  have named (accepted : rotationAccepted tenantId pathname newKey = true) :
      targetTenant tenantId headerTenant ≠ "" :=
    targetTenant_ne_empty (fun none => (of_decide_eq_true accepted).2.1 (Or.inl none)) _
  unfold rotateSecret
  cases done : handleRotateKeySecret vault.apiKeys tenantId headerTenant pathname newKey
      encryption with
  | none =>
    refine iff_of_true (fun row found allowed accepted => ?_) opens
    obtain ⟨rotated, carried⟩ := handleRotateKeySecret_row headerTenant encryption found allowed
      accepted
    rw [done] at carried
    cases carried
  | some rotated =>
    obtain ⟨accepted, -, rfl⟩ := handleRotateKeySecret_some done
    constructor
    · intro apt row mem
      obtain ⟨old, had, ⟨rfl, -⟩ | ⟨rfl, hit⟩⟩ :=
        ApiKeys.mem_update (rotateRow_id _ _ encryption) mem
      · exact opens _ had
      · obtain ⟨same, allowed⟩ := of_decide_eq_true hit
        have found := same ▸ IndexedMap.get?_of_mem had
        exact (opens_sealed (named accepted) rfl).mpr (apt old found allowed accepted)
    · intro after row found allowed _
      obtain ⟨had, same⟩ := IndexedMap.get?_some found
      have rotated := after _ (List.mem_map_of_mem had)
      rw [if_pos (decide_eq_true ⟨same, allowed⟩)] at rotated
      have sealed : (rotateRow (targetTenant tenantId headerTenant) (trim (newKey.getD ""))
          encryption row).encrypted.key = .tenant (targetTenant tenantId headerTenant) := rfl
      exact (opens_sealed (named accepted) sealed).mp rotated

omit [Host] in
theorem rewritten_open {apiKeys : ApiKeys} (opens : vault.AllOpen)
    (rewrites : ∀ row ∈ apiKeys.values, ∃ old ∈ vault.apiKeys.values, Rewrites row old) :
    AllOpen { vault with apiKeys } := by
  intro row mem
  obtain ⟨old, had, same⟩ := rewrites row mem
  exact same.opens (opens old had)

/-- A step leaves every row open to its tenant just when its rotation is apt. -/
theorem apt_iff_allOpen (opens : vault.AllOpen) (op : VaultOp) :
    vault.Apt op ↔ (vault.step op).AllOpen := by
  cases op with
  | createKey tenantId headerTenant body entropy written =>
    exact iff_of_true trivial (createKey_open opens)
  | rotateSecret tenantId headerTenant pathname newKey encryption =>
    exact rotateSecret_open_iff opens
  | poolMode tenantId keyId frozen poolType =>
    refine iff_of_true trivial ?_
    simp only [step, poolMode]
    split
    · exact opens
    · rename_i done
      exact rewritten_open opens (handlePoolMode_rewrites done)
  | routingStatus keyId status =>
    exact iff_of_true trivial
      (rewritten_open opens (handleRoutingStatus_rewrites vault.apiKeys keyId status))
  | approveAll =>
    exact iff_of_true trivial (rewritten_open opens (approveAll_rewrites vault.apiKeys))

/-- In every run of creations, rotations and switches, every stored key can be decrypted by
every tenant that may dispatch it, in every state reached, exactly when each rotation acts
for the tenant of the row it is carried out on, or for `default`. -/
theorem stored_keys_decryptable_iff (ops : List VaultOp) :
    (∀ vault ∈ Transition.reached step empty ops, vault.Decryptable) ↔
      Transition.Guarded step Apt empty ops := by
  have none : ∀ row ∈ empty.apiKeys.values, False := fun _ => List.not_mem_nil
  refine (Transition.guarded_iff_invariant (I := AllKept) (fun _ op kept => step_allKept kept op)
    (fun vault op kept decryptable => ?_) (fun row mem => (none row mem).elim)
    (fun row mem => (none row mem).elim) ops).symm
  rw [decryptable_iff (step_allKept kept op)]
  exact apt_iff_allOpen ((decryptable_iff kept).mp decryptable) op

end Steps

section Examples

attribute [local instance] asciiHost

def groqBody : PostKeyBody := ⟨"groq", "gsk_1", 30, 14400, 0, none⟩

def groqBytes : List (Fin 256) := List.replicate 3 (Fin.last 255)

theorem groqBytes_three : groqBytes.length = 3 := rfl

def groqEntropy : Entropy := ⟨"l", groqBytes, groqBytes_three, "c", "n"⟩

/-- A caller creates a key, and another one rotates its secret. -/
def rotatedBy (creator caller : String) (headerTenant : Option String) : Vault :=
  [.createKey creator none groqBody groqEntropy (by decide),
    .rotateSecret caller headerTenant "/api/keys/key_groq_l_ffffff/rotate" (some "gsk_2")
      ⟨"d", "m", by decide⟩].foldl step empty

theorem not_decryptable {vault : Vault} (tenantId : String)
    (owned : (vault.apiKeys.get? "key_groq_l_ffffff").map ApiKeyRow.tenantId = some tenantId)
    (supplied : vault.supplied "key_groq_l_ffffff" = some "gsk_2")
    (shut : (resolvePlaintextKey vault.apiKeys (fun _ => none) "key_groq_l_ffffff" tenantId
      0).1.decrypted = none) : ¬vault.Decryptable := by
  obtain ⟨row, found, own⟩ := Option.map_eq_some_iff.mp owned
  obtain ⟨mem, same⟩ := IndexedMap.get?_some found
  intro decryptable
  have decrypted := decryptable row mem tenantId (Or.inl own) 0 "gsk_2" (same ▸ supplied)
  rw [same, shut] at decrypted
  cases decrypted

/-- A tenant rotates a key of `default`; the administrator rotates a tenant's key and names
another tenant in the header. -/
theorem rotated_undecryptable :
    ¬(rotatedBy "admin" "alice" none).Decryptable ∧
      ¬(rotatedBy "alice" "admin" (some "bob")).Decryptable := by
  constructor
  · exact not_decryptable "default" (by decide +kernel) (by decide +kernel) (by decide +kernel)
  · exact not_decryptable "alice" (by decide +kernel) (by decide +kernel) (by decide +kernel)

end Examples

end Vault

end KeyCollective
