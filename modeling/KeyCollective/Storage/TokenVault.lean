import KeyCollective.Storage.TokenTable

/-!
# What the tokens of the vault keep

Every row was created, opens to the token it was created for and is found by it. What one
tenant calls leaves the rows of the others alone, and a revoked token stays refused.
-/

namespace KeyCollective.TokenVault

open Aes
open Interleaving (Event)

/-! ## Rows -/

section Rows

variable (row : StoredToken) (write : Write)

@[simp] theorem Write.apply_id : (write.apply row).id = row.id := by
  cases write <;> rfl

@[simp] theorem Write.apply_hash : (write.apply row).hashSha256 = row.hashSha256 := by
  cases write <;> rfl

@[simp] theorem Write.apply_tenant : (write.apply row).tenantId = row.tenantId := by
  cases write <;> rfl

@[simp] theorem Write.apply_ciphertext :
    (write.apply row).encryptedTokenB64 = row.encryptedTokenB64 := by
  cases write <;> rfl

@[simp] theorem Write.apply_nonce : (write.apply row).nonceB64 = row.nonceB64 := by
  cases write <;> rfl

@[simp] theorem Write.apply_key : (write.apply row).key = row.key :=
  Write.apply_id row write

end Rows

theorem selectRow_some {tokens : TokenTable} {id : String} {tenantId : Option String}
    {row : StoredToken} (selected : selectRow tokens id tenantId = some row) :
    row ∈ tokens.values ∧ row.id = trim id ∧ ∀ named, tenantId = some named →
      row.tenantId = trim named := by
  obtain ⟨found, ours⟩ := Option.filter_eq_some_iff.mp selected
  obtain ⟨mem, same⟩ := IndexedMap.get?_some found
  refine ⟨mem, same, ?_⟩
  intro named given
  subst given
  simpa using ours

theorem uint8ArrayToBase64_ne {bytes : Bytes} (some : bytes ≠ []) :
    uint8ArrayToBase64 bytes ≠ "" := by
  intro empty
  have read := base64ToUint8Array_uint8ArrayToBase64 bytes
  rw [empty] at read
  exact some (Option.some.inj read).symm

theorem encrypt_log {κ : Type} {aes : AesGcm κ} {log : Aes.Sealed κ} {plaintext : Binary} {key : KeyInput κ}
    {customNonce : Option Bytes} {generated : Nonce} :
    log ⊆ (encrypt aes log plaintext key customNonce generated).2 := by
  unfold encrypt
  dsimp only
  split
  · exact List.Subset.refl log
  · split
    · exact List.Subset.refl log
    · exact List.subset_cons_self _ log

/-- A row that takes the place of another, under a digest that no other row has. -/
theorem unique_set {tokens : TokenTable} {row : StoredToken}
    (unique : ∀ row ∈ tokens.values, ∀ other ∈ tokens.values,
      row.hashSha256 = other.hashSha256 → row = other)
    (free : ∀ other ∈ tokens.values, other.hashSha256 = row.hashSha256 → other.key = row.key) :
    ∀ first ∈ (tokens.set row).values, ∀ second ∈ (tokens.set row).values,
      first.hashSha256 = second.hashSha256 → first = second := by
  intro first firstMem second secondMem same
  rcases IndexedMap.mem_set_other firstMem with rfl | ⟨old, apart⟩
  · rcases IndexedMap.mem_set_other secondMem with rfl | ⟨old, apart⟩
    · rfl
    · exact absurd (free second old same.symm) apart
  · rcases IndexedMap.mem_set_other secondMem with rfl | ⟨old', -⟩
    · exact absurd (free first old same) apart
    · exact unique first old second old' same

/-- What a tenant has. -/
def rowsOf (tokens : TokenTable) (tenantId : String) : List StoredToken :=
  tokens.ownedBy (fun row => row.tenantId) tenantId

variable {κ : Type}

/-! ## What a call has in hand -/

/-- The write that a call was left with is the one it was made for. -/
def Write.Fits (now : Int) (operation : Operation κ) : Write → Prop
  | delete => True
  | expire nowMs => (∃ id tenantId, operation = .revokeToken id tenantId) ∧ nowMs ≤ now
  | budget budgetMicrodollars => 0 ≤ budgetMicrodollars
  | spent spentMicrodollars => 0 ≤ spentMicrodollars
  | fields params => (∃ id tenantId, operation = .updateToken id tenantId params) ∧
    (∀ budget ∈ params.budgetMicrodollars, 0 ≤ budget) ∧
      ∀ rpm ∈ params.rpmLimit, isValidRpmLimit rpm = true

def Call.Ready (now : Int) (call : Call κ) : Prop :=
  ∀ write, call.phase = .writing write → write.Fits now call.operation

theorem checkUpdate_fits {params : UpdateAuthTokenParams} {write : Write}
    (checked : Operation.checkUpdate params = .writing write) :
    write = .fields params ∧ (∀ budget ∈ params.budgetMicrodollars, 0 ≤ budget) ∧
      ∀ rpm ∈ params.rpmLimit, isValidRpmLimit rpm = true := by
  unfold Operation.checkUpdate at checked
  by_cases negative : params.budgetMicrodollars.any (· < 0)
  · rw [if_pos negative] at checked
    cases checked
  rw [if_neg negative] at checked
  cases invalid : params.rpmLimit.filter fun rpm => !isValidRpmLimit rpm with
  | some rpm =>
    rw [invalid] at checked
    cases checked
  | none =>
    rw [invalid] at checked
    by_cases nothing : params = {}
    · simp only [nothing, ↓reduceIte] at checked
      cases checked
    simp only [nothing, ↓reduceIte] at checked
    cases checked
    refine ⟨rfl, ?_, ?_⟩
    · intro budget asked
      rw [Option.mem_def] at asked
      rw [asked] at negative
      simpa using negative
    · intro rpm asked
      rw [Option.mem_def] at asked
      rw [asked] at invalid
      simpa using invalid

theorem select_fits {vault : Vault κ} {operation : Operation κ} {write : Write}
    (spent : ∀ row ∈ vault.tokens.values, 0 ≤ row.spentMicrodollars)
    (next : select vault operation = .writing write) : write.Fits vault.now operation := by
  unfold select at next
  cases amount : operation.amountFailure with
  | some failure =>
    rw [amount] at next
    cases next
  | none =>
    rw [amount] at next
    dsimp only at next
    split_ifs at next with unnamed
    · cases operation <;> cases next
    · cases scope : operation.tenantId with
      | none =>
        rw [scope] at next
        cases operation with
        | deleteToken id tenantId =>
          cases next
          trivial
        | revokeToken id tenantId =>
          cases next
          exact ⟨⟨id, tenantId, rfl⟩, le_rfl⟩
        | createToken | updateBudget | recordSpend | updateToken => cases next
      | some tenantId =>
        rw [scope] at next
        dsimp only at next
        split_ifs at next
        cases selected : selectRow vault.tokens operation.id (some tenantId) with
        | none =>
          rw [selected] at next
          cases next
        | some existing =>
          rw [selected] at next
          have natural := spent existing (selectRow_some selected).1
          cases operation with
          | createToken => cases next
          | deleteToken =>
            cases next
            trivial
          | revokeToken id tenantId =>
            cases next
            exact ⟨⟨id, tenantId, rfl⟩, le_rfl⟩
          | updateBudget id tenantId budget =>
            cases next
            have positive : ¬budget < 0 := by
              intro negative
              simp [Operation.amountFailure, negative] at amount
            exact CostLedgerRepository.numberOfBigInt_nonneg (not_lt.mp positive)
          | recordSpend id tenantId spend =>
            cases next
            have positive : ¬spend < 0 := by
              intro negative
              simp [Operation.amountFailure, negative] at amount
            exact CostLedgerRepository.numberOfBigInt_nonneg (add_nonneg natural (not_lt.mp positive))
          | updateToken id tenantId params =>
            obtain ⟨rfl, checks⟩ := checkUpdate_fits next
            exact ⟨⟨id, tenantId, rfl⟩, checks⟩

theorem Call.Ready.later {call : Call κ} {now since : Int} (ready : call.Ready now)
    (passed : now ≤ since) : call.Ready since := by
  intro write pending
  have fits := ready write pending
  cases write with
  | expire nowMs => exact ⟨fits.1, fits.2.trans passed⟩
  | delete | budget | spent | fields => exact fits

theorem checkLimits_ok {params : CreateAuthTokenParams κ} (checked : checkLimits params = .ok ()) :
    0 ≤ params.budgetMicrodollars.getD 0 ∧ 0 ≤ params.spentMicrodollars.getD 0 ∧
      isValidRpmLimit (params.rpmLimit.getD 60) = true := by
  unfold checkLimits at checked
  split_ifs at checked with budget spent rpm
  exact ⟨not_lt.mp budget, not_lt.mp spent, by simpa using rpm⟩

theorem crossCheck_writes_not {vault : Vault κ} {operation : Operation κ} {write : Write} :
    crossCheck vault operation ≠ .writing write := by
  have absent : operation.absent ≠ .writing write := by cases operation <;> nofun
  unfold crossCheck
  split
  · split_ifs
    · exact absent
    · nofun
  · exact absent

/-! ## Runs -/

def operations (world : World κ) : List (Operation κ) := world.processes.map Call.operation

/-- No token and no call under way. -/
def begin (now : Int) (calls : List (Operation κ)) : World κ where
  shared := { tokens := .empty, log := [], now }
  processes := calls.map fun operation => { operation }

theorem begin_operations (now : Int) (calls : List (Operation κ)) :
    operations (begin now calls) = calls := by
  rw [operations, begin, List.map_map]
  exact List.map_id calls

section Vault

variable [Edge] {aes : AesGcm κ} {masterKey : KeyInput κ}

/-! ## One statement -/

variable (aes masterKey) in
/-- What a statement of a call makes of the vault. -/
inductive Change (vault : Vault κ) (call : Call κ) : Vault κ → Prop where
  | nothing : Change vault call vault
  | sealed {log : Aes.Sealed κ} (kept : vault.log ⊆ log) : Change vault call { vault with log }
  | created {params : CreateAuthTokenParams κ} {payload : EncryptedPayload} {log : Aes.Sealed κ} :
    call.phase = .starting → call.operation = .createToken params →
    trim params.token ≠ "" → trim params.tenantId ≠ "" →
    encrypt aes vault.log (.text (trim params.token))
      (effectiveKey masterKey params.encryptionKey) none params.generated = (.ok payload, log) →
    checkLimits params = .ok () → taken vault.tokens (newRow params payload vault.now) = false →
      Change vault call
        { vault with log, tokens := vault.tokens.set (newRow params payload vault.now) }
  | deleted {row : StoredToken} : call.phase = .writing .delete →
    selectRow vault.tokens call.operation.id call.operation.tenantId = some row →
      Change vault call { vault with tokens := vault.tokens.delete row.id }
  | updated {row : StoredToken} {write : Write} : call.phase = .writing write → write ≠ .delete →
    selectRow vault.tokens call.operation.id call.operation.tenantId = some row →
      Change vault call { vault with tokens := vault.tokens.set (write.apply row) }

theorem createToken_change {vault : Vault κ} {call : Call κ} {params : CreateAuthTokenParams κ}
    (first : call.phase = .starting) (asked : call.operation = .createToken params) :
    Change aes masterKey vault call (createToken aes masterKey vault params).2 := by
  have kept : vault.log ⊆ (encrypt aes vault.log (.text (trim params.token))
      (effectiveKey masterKey params.encryptionKey) none params.generated).2 :=
    encrypt_log
  unfold createToken
  split_ifs with unnamed homeless
  · exact .nothing
  · exact .nothing
  · cases done : encrypt aes vault.log (.text (trim params.token))
      (effectiveKey masterKey params.encryptionKey) none params.generated with
    | mk encrypted log =>
      rw [done] at kept
      cases encrypted with
      | error failure => exact .sealed kept
      | ok payload =>
        cases checked : checkLimits params with
        | error failure => exact .sealed kept
        | ok checked' =>
          dsimp only
          split_ifs with clashes
          · exact .sealed kept
          · exact .created first asked unnamed homeless done checked (Bool.eq_false_iff.mpr clashes)

theorem advance_change (vault : Vault κ) (call : Call κ) :
    Change aes masterKey vault call (advance aes masterKey vault call).1 := by
  cases now : call.phase with
  | starting =>
    cases asked : call.operation with
    | createToken params =>
      have change : Change aes masterKey vault call (createToken aes masterKey vault params).2 :=
        createToken_change now asked
      simp only [advance, now, asked]
      cases outcome : createToken aes masterKey vault params with
      | mk result vault' =>
        rw [outcome] at change
        cases result <;> exact change
    | deleteToken | revokeToken | updateBudget | recordSpend | updateToken =>
      simp only [advance, now, asked]
      exact .nothing
  | crossing =>
    simp only [advance, now]
    exact .nothing
  | writing write =>
    simp only [advance, now, Write.run]
    cases selected : selectRow vault.tokens call.operation.id call.operation.tenantId with
    | none => exact .nothing
    | some row =>
      dsimp only
      split_ifs with deletes
      · subst deletes
        exact .deleted now selected
      · exact .updated now deletes selected
  | returned =>
    simp only [advance, now]
    exact .nothing
  | threw failure =>
    simp only [advance, now]
    exact .nothing

theorem advance_operation (vault : Vault κ) (call : Call κ) :
    (advance aes masterKey vault call).2.operation = call.operation := by
  unfold advance
  split
  · split
    · split <;> rfl
    · rfl
  · rfl
  · rfl
  · rfl
  · rfl

theorem advance_ready {vault : Vault κ} {call : Call κ}
    (spent : ∀ row ∈ vault.tokens.values, 0 ≤ row.spentMicrodollars) :
    (advance aes masterKey vault call).2.Ready vault.now := by
  intro write pending
  rw [advance_operation]
  cases now : call.phase with
  | starting =>
    cases asked : call.operation with
    | createToken params =>
      simp only [advance, now, asked] at pending
      split at pending <;> cases pending
    | deleteToken | revokeToken | updateBudget | recordSpend | updateToken =>
      simp only [advance, now, asked] at pending
      exact select_fits spent pending
  | crossing =>
    simp only [advance, now] at pending
    exact absurd pending crossCheck_writes_not
  | writing write' =>
    simp only [advance, now] at pending
    cases pending
  | returned | threw =>
    simp only [advance, now] at pending
    cases pending

/-! ## The rows of a vault -/

variable (aes masterKey) in
/-- A row that was created for a token. Only its limits and its expiry change. -/
structure Holds (log : Aes.Sealed κ) (params : CreateAuthTokenParams κ) (row : StoredToken) :
    Prop where
  named : trim params.token ≠ ""
  hash : row.hashSha256 = Edge.hashToken (trim params.token)
  tenant : row.tenantId = trim params.tenantId
  housed : row.tenantId ≠ ""
  payload : ∃ cryptoKey payload, resolveKey aes (effectiveKey masterKey params.encryptionKey) =
    .ok cryptoKey ∧ Produced aes log cryptoKey (trim params.token) payload ∧
      row.encryptedTokenB64 = some payload.ciphertextB64 ∧ row.nonceB64 = some payload.nonceB64
  budget : 0 ≤ row.budgetMicrodollars
  spent : 0 ≤ row.spentMicrodollars
  rpm : isValidRpmLimit row.rpmLimit = true

variable {log since : Aes.Sealed κ} {params : CreateAuthTokenParams κ} {row : StoredToken}

theorem Holds.later (holds : Holds aes masterKey log params row) (kept : log ⊆ since) :
    Holds aes masterKey since params row := by
  obtain ⟨cryptoKey, payload, resolved, produced, written⟩ := holds.payload
  exact { holds with payload := ⟨cryptoKey, payload, resolved, produced.later kept, written⟩ }

theorem Holds.decrypted [DecidableEq κ] (holds : Holds aes masterKey log params row) :
    decryptToken aes masterKey log row params.encryptionKey = some (trim params.token) := by
  obtain ⟨cryptoKey, payload, resolved, produced, ciphertext, nonce⟩ := holds.payload
  have sealed : payload.ciphertextB64 ≠ "" := by
    rw [produced.ciphertextB64]
    apply uint8ArrayToBase64_ne
    apply List.ne_nil_of_length_pos
    rw [produced.ciphertext, aes.length_encipher]
    exact Nat.add_pos_right _ (by decide)
  have numbered : payload.nonceB64 ≠ "" := by
    rw [produced.nonceB64]
    apply uint8ArrayToBase64_ne
    apply List.ne_nil_of_length_pos
    rw [produced.nonce]
    decide
  have opened := produced.decrypt resolved
    (.separate (Or.inr rfl : payload.IsCiphertext (.text payload.ciphertextB64))
      (Or.inr rfl : payload.IsNonce (.text payload.nonceB64)))
  rw [unmarked_trim] at opened
  simp only [decryptToken, ciphertext, nonce, Option.filter_some, sealed, numbered, ne_eq,
    not_false_eq_true, decide_true, ↓reduceIte, opened]
  rfl

theorem newRow_holds {vault : Vault κ} {payload : EncryptedPayload}
    (named : trim params.token ≠ "") (housed : trim params.tenantId ≠ "")
    (sealed : encrypt aes vault.log (.text (trim params.token))
      (effectiveKey masterKey params.encryptionKey) none params.generated = (.ok payload, log))
    (checked : checkLimits params = .ok ()) :
    Holds aes masterKey log params (newRow params payload vault.now) := by
  obtain ⟨cryptoKey, resolved, produced⟩ := encrypt_produced (congrArg Prod.fst sealed)
  rw [sealed] at produced
  obtain ⟨budget, spent, rpm⟩ := checkLimits_ok checked
  exact
    { named, housed, rpm
      hash := rfl
      tenant := rfl
      payload := ⟨cryptoKey, payload, resolved, produced, rfl, rfl⟩
      budget := CostLedgerRepository.numberOfBigInt_nonneg budget
      spent := CostLedgerRepository.numberOfBigInt_nonneg spent }

theorem Holds.updated {operation : Operation κ} {write : Write} {now : Int}
    (holds : Holds aes masterKey log params row) (fits : write.Fits now operation) :
    Holds aes masterKey log params (write.apply row) := by
  have limits : 0 ≤ (write.apply row).budgetMicrodollars ∧
      0 ≤ (write.apply row).spentMicrodollars ∧
        isValidRpmLimit (write.apply row).rpmLimit = true := by
    cases write with
    | delete => exact ⟨holds.budget, holds.spent, holds.rpm⟩
    | expire => exact ⟨holds.budget, holds.spent, holds.rpm⟩
    | budget => exact ⟨fits, holds.spent, holds.rpm⟩
    | spent => exact ⟨holds.budget, fits, holds.rpm⟩
    | fields params =>
      obtain ⟨-, budget, rpm⟩ := fits
      refine ⟨?_, holds.spent, ?_⟩
      · cases asked : params.budgetMicrodollars with
        | none => simpa [Write.apply, asked] using holds.budget
        | some value =>
          have natural := CostLedgerRepository.numberOfBigInt_nonneg (budget value asked)
          simpa [Write.apply, asked] using natural
      · cases asked : params.rpmLimit with
        | none => simpa [Write.apply, asked] using holds.rpm
        | some value => simpa [Write.apply, asked] using rpm value asked
  exact
    { named := holds.named
      hash := (Write.apply_hash row write).trans holds.hash
      tenant := (Write.apply_tenant row write).trans holds.tenant
      housed := by simpa using holds.housed
      payload := by simpa using holds.payload
      budget := limits.1
      spent := limits.2.1
      rpm := limits.2.2 }

/-! ## Runs -/

variable (aes masterKey) in
/-- Every row is one that some call created, and no two have a digest in common. -/
structure Kept (operations : List (Operation κ)) (vault : Vault κ) : Prop where
  rows : ∀ row ∈ vault.tokens.values, ∃ params, .createToken params ∈ operations ∧
    Holds aes masterKey vault.log params row
  unique : ∀ row ∈ vault.tokens.values, ∀ other ∈ vault.tokens.values,
    row.hashSha256 = other.hashSha256 → row = other

variable (aes masterKey) in
structure Sound (world : World κ) : Prop where
  kept : Kept aes masterKey (operations world) world.shared
  ready : ∀ call ∈ world.processes, call.Ready world.shared.now

theorem Kept.change {vault changed : Vault κ} {call : Call κ} {calls : List (Operation κ)}
    (kept : Kept aes masterKey calls vault) (asked : call.operation ∈ calls)
    (ready : call.Ready vault.now) (change : Change aes masterKey vault call changed) :
    Kept aes masterKey calls changed := by
  cases change with
  | nothing => exact kept
  | sealed grown =>
    refine ⟨?_, kept.unique⟩
    intro row mem
    obtain ⟨params, created, holds⟩ := kept.rows row mem
    exact ⟨params, created, holds.later grown⟩
  | @created params payload log starts creates named housed sealed checked free =>
    have grown : vault.log ⊆ log := by
      have kept : vault.log ⊆ (encrypt aes vault.log (.text (trim params.token))
          (effectiveKey masterKey params.encryptionKey) none params.generated).2 :=
        encrypt_log
      rwa [sealed] at kept
    obtain ⟨-, unused⟩ := Bool.or_eq_false_iff.mp free
    constructor
    · intro row mem
      rcases IndexedMap.mem_set mem with rfl | old
      · exact ⟨params, creates ▸ asked, newRow_holds named housed sealed checked⟩
      · obtain ⟨params, created, holds⟩ := kept.rows row old
        exact ⟨params, created, holds.later grown⟩
    · apply unique_set kept.unique
      intro other old same
      rw [List.any_eq_false] at unused
      exact absurd (decide_eq_true same) (unused other old)
  | deleted writes selected =>
    have old {row : StoredToken} {id : String} (mem : row ∈ (vault.tokens.delete id).values) :
        row ∈ vault.tokens.values := (List.mem_filter.mp mem).1
    constructor
    · intro row mem
      exact kept.rows row (old mem)
    · intro row mem other mem'
      exact kept.unique row (old mem) other (old mem')
  | @updated row write writes keeps selected =>
    obtain ⟨present, -, -⟩ := selectRow_some selected
    constructor
    · intro changed mem
      rcases IndexedMap.mem_set mem with rfl | old
      · obtain ⟨params, created, holds⟩ := kept.rows row present
        exact ⟨params, created, holds.updated (ready write writes)⟩
      · exact kept.rows changed old
    · apply unique_set kept.unique
      intro other old same
      rw [Write.apply_hash] at same
      rw [Write.apply_key, kept.unique other old row present same]

theorem step_operations (world : World κ) (event : Event) :
    operations (step aes masterKey world event) = operations world := by
  cases event with
  | tick => rfl
  | resume i => exact Interleaving.map_step Call.operation fun vault call =>
      advance_operation vault call

theorem advance_now (vault : Vault κ) (call : Call κ) :
    (advance aes masterKey vault call).1.now = vault.now := by
  have change : Change aes masterKey vault call (advance aes masterKey vault call).1 :=
    advance_change vault call
  generalize (advance aes masterKey vault call).1 = changed at change ⊢
  cases change <;> rfl

theorem Sound.step {world : World κ} (sound : Sound aes masterKey world) (event : Event) :
    Sound aes masterKey (step aes masterKey world event) := by
  obtain ⟨kept, ready⟩ := sound
  cases event with
  | tick ms =>
    refine ⟨⟨kept.rows, kept.unique⟩, ?_⟩
    intro call mem
    exact (ready call mem).later (by simp [TokenVault.step, Interleaving.stepEvent, Vault.later])
  | resume i =>
    have same : operations (TokenVault.step aes masterKey world (.resume i)) = operations world :=
      step_operations world (.resume i)
    cases present : world.processes[i]? with
    | none =>
      rw [TokenVault.step, Interleaving.stepEvent, Interleaving.step_none present]
      exact ⟨kept, ready⟩
    | some call =>
      have mem := List.mem_of_getElem? present
      have spent : ∀ row ∈ world.shared.tokens.values, 0 ≤ row.spentMicrodollars := by
        intro row mem
        obtain ⟨params, -, holds⟩ := kept.rows row mem
        exact holds.spent
      constructor
      · rw [same, TokenVault.step, Interleaving.stepEvent, Interleaving.step_some present]
        exact kept.change (List.mem_map_of_mem mem) (ready call mem) (advance_change _ call)
      · have stays : (TokenVault.step aes masterKey world (.resume i)).shared.now =
            world.shared.now := by
          rw [TokenVault.step, Interleaving.stepEvent, Interleaving.step_some present]
          exact advance_now _ call
        rw [stays]
        exact Interleaving.forall_step ready fun call _ _ => advance_ready spent

theorem Sound.run {world : World κ} (sound : Sound aes masterKey world) (schedule : List Event) :
    Sound aes masterKey (run aes masterKey world schedule) := by
  induction schedule generalizing world with
  | nil => exact sound
  | cons event rest ih => exact ih (sound.step event)

theorem run_operations (world : World κ) (schedule : List Event) :
    operations (run aes masterKey world schedule) = operations world := by
  induction schedule generalizing world with
  | nil => rfl
  | cons event rest ih => exact (ih _).trans (step_operations world event)

theorem begin_sound (now : Int) (calls : List (Operation κ)) :
    Sound aes masterKey (begin now calls) := by
  refine ⟨⟨nofun, nofun⟩, ?_⟩
  intro call mem write pending
  obtain ⟨operation, -, rfl⟩ := List.mem_map.mp mem
  cases pending

variable (aes masterKey) in
/-- A row serves the call that created it: it opens to the token, and the token leads to it. -/
structure Serves [DecidableEq κ] (vault : Vault κ) (params : CreateAuthTokenParams κ)
    (row : StoredToken) : Prop where
  tenant : row.tenantId = trim params.tenantId
  housed : row.tenantId ≠ ""
  opens : decryptToken aes masterKey vault.log row params.encryptionKey = some (trim params.token)
  found : findByToken vault.tokens (trim params.token) = some row
  budget : 0 ≤ row.budgetMicrodollars
  spent : 0 ≤ row.spentMicrodollars
  rpm : isValidRpmLimit row.rpmLimit = true

theorem findByToken_some {tokens : TokenTable} {plainToken : String} {row : StoredToken}
    (found : findByToken tokens plainToken = some row) :
    row ∈ tokens.values ∧ row.hashSha256 = Edge.hashToken plainToken := by
  unfold findByToken at found
  split_ifs at found
  have same := List.find?_some found
  rw [decide_eq_true_eq] at same
  exact ⟨List.mem_of_find?_eq_some found, same⟩

theorem Kept.found {calls : List (Operation κ)} {vault : Vault κ} {token : String}
    (kept : Kept aes masterKey calls vault) (mem : row ∈ vault.tokens.values) (named : token ≠ "")
    (hash : row.hashSha256 = Edge.hashToken token) : findByToken vault.tokens token = some row := by
  rw [findByToken, if_neg named]
  cases found : vault.tokens.values.find? fun row => row.hashSha256 = Edge.hashToken token with
  | none =>
    have missing := List.find?_eq_none.mp found row mem
    exact absurd (decide_eq_true hash) missing
  | some other =>
    have fits := List.find?_some found
    rw [decide_eq_true_eq] at fits
    rw [kept.unique other (List.mem_of_find?_eq_some found) row mem (fits.trans hash.symm)]

/-- After any statements of any calls in any order, every token in the vault was asked for. It
opens, under the key it was sealed with, to exactly the text that it was asked for, and that text
leads to its row and to no other. -/
theorem run_serves [DecidableEq κ] (now : Int) (calls : List (Operation κ))
    (schedule : List Event) :
    ∀ row ∈ (run aes masterKey (begin now calls) schedule).shared.tokens.values,
      ∃ params, .createToken params ∈ calls ∧
        Serves aes masterKey (run aes masterKey (begin now calls) schedule).shared params row := by
  intro row mem
  obtain ⟨kept, -⟩ := (begin_sound now calls : Sound aes masterKey _).run schedule
  rw [run_operations, begin_operations] at kept
  obtain ⟨params, created, holds⟩ := kept.rows row mem
  refine ⟨params, created, ?_⟩
  exact
    { tenant := holds.tenant
      housed := holds.housed
      opens := holds.decrypted
      found := kept.found mem holds.named holds.hash
      budget := holds.budget
      spent := holds.spent
      rpm := holds.rpm }

/-! ## Tenants -/

theorem Change.frame {vault changed : Vault κ} {call : Call κ} {tenantId other : String}
    (change : Change aes masterKey vault call changed)
    (theirs : call.operation.tenantId = some other) (apart : trim other ≠ tenantId) :
    rowsOf changed.tokens tenantId = rowsOf vault.tokens tenantId := by
  cases change with
  | nothing => rfl
  | sealed => rfl
  | @created params payload log starts creates named housed sealed checked free =>
    obtain ⟨unused, -⟩ := Bool.or_eq_false_iff.mp free
    rw [creates] at theirs
    obtain rfl := Option.some.inj theirs
    apply IndexedMap.ownedBy_set_other
    · exact apart
    · intro old present
      have taken : vault.tokens.has (newRow params payload vault.now).id = true :=
        Option.isSome_iff_exists.mpr ⟨old, present⟩
      rw [unused] at taken
      cases taken
  | @deleted row writes selected =>
    obtain ⟨mem, -, ours⟩ := selectRow_some selected
    apply IndexedMap.ownedBy_delete_other
    intro old present
    rw [show row.id = row.key from rfl, IndexedMap.get?_of_mem mem] at present
    obtain rfl := Option.some.inj present
    rw [ours other theirs]
    exact apart
  | @updated row write writes keeps selected =>
    obtain ⟨mem, -, ours⟩ := selectRow_some selected
    apply IndexedMap.ownedBy_set_other
    · rw [Write.apply_tenant, ours other theirs]
      exact apart
    · intro old present
      rw [Write.apply_key, IndexedMap.get?_of_mem mem] at present
      obtain rfl := Option.some.inj present
      rw [ours other theirs]
      exact apart

theorem step_frame {world : World κ} {tenantId : String}
    (others : ∀ operation ∈ operations world, ∃ other, operation.tenantId = some other ∧
      trim other ≠ tenantId) (event : Event) :
    rowsOf (step aes masterKey world event).shared.tokens tenantId =
      rowsOf world.shared.tokens tenantId := by
  cases event with
  | tick => rfl
  | resume i =>
    cases present : world.processes[i]? with
    | none => rw [step, Interleaving.stepEvent, Interleaving.step_none present]
    | some call =>
      obtain ⟨other, theirs, apart⟩ := others call.operation
        (List.mem_map_of_mem (List.mem_of_getElem? present))
      rw [step, Interleaving.stepEvent, Interleaving.step_some present]
      exact (advance_change world.shared call).frame theirs apart

/-- Calls of other tenants, in whatever order their statements come, leave every row of a tenant
as it is, and its rows in their order. -/
theorem run_frame (world : World κ) (tenantId : String)
    (others : ∀ operation ∈ operations world, ∃ other, operation.tenantId = some other ∧
      trim other ≠ tenantId) (schedule : List Event) :
    rowsOf (run aes masterKey world schedule).shared.tokens tenantId =
      rowsOf world.shared.tokens tenantId := by
  induction schedule generalizing world with
  | nil => rfl
  | cons event rest ih =>
    have kept : operations (step aes masterKey world event) = operations world :=
      step_operations world event
    exact (ih _ (kept ▸ others)).trans (step_frame others event)

/-! ## Revocation -/

/-- The calls that can make a revoked token valid again. -/
def Operation.Restores (revoked : StoredToken) : Operation κ → Prop
  | .createToken params => Edge.hashToken (trim params.token) = revoked.hashSha256
  | .updateToken id _ params => trim id = revoked.id ∧ params.expiresAt ≠ none
  | _ => False

/-- A call that has statements left. -/
def Call.Live (call : Call κ) : Prop :=
  call.phase ≠ .returned ∧ ∀ failure, call.phase ≠ .threw failure

/-- The row of a digest, if there is one, has expired. -/
structure Expired (vault : Vault κ) (revoked : StoredToken) : Prop where
  same : ∀ row ∈ vault.tokens.values, row.hashSha256 = revoked.hashSha256 → row.id = revoked.id
  past : ∀ row ∈ vault.tokens.values, row.hashSha256 = revoked.hashSha256 →
    ∃ expiresAt, row.expiresAt = some expiresAt ∧ expiresAt ≤ vault.now

theorem advance_live {vault : Vault κ} {call : Call κ}
    (live : (advance aes masterKey vault call).2.Live) : call.Live := by
  cases now : call.phase with
  | returned =>
    rw [advance, now] at live
    exact absurd now live.1
  | threw failure =>
    rw [advance, now] at live
    exact absurd now (live.2 failure)
  | starting | crossing | writing => exact ⟨by rw [now]; nofun, by rw [now]; nofun⟩

theorem Expired.change {vault changed : Vault κ} {call : Call κ} {revoked : StoredToken}
    (expired : Expired vault revoked) (ready : call.Ready vault.now)
    (idle : call.Live → ¬call.operation.Restores revoked)
    (change : Change aes masterKey vault call changed) : Expired changed revoked := by
  cases change with
  | nothing => exact expired
  | sealed => exact ⟨expired.same, expired.past⟩
  | @created params payload log starts creates named housed sealed checked free =>
    have live : call.Live := ⟨by rw [starts]; nofun, by rw [starts]; nofun⟩
    have apart : (newRow params payload vault.now).hashSha256 ≠ revoked.hashSha256 := by
      intro same
      apply idle live
      rw [creates]
      exact same
    constructor
    · intro row mem same
      rcases IndexedMap.mem_set mem with rfl | old
      · exact absurd same apart
      · exact expired.same row old same
    · intro row mem same
      rcases IndexedMap.mem_set mem with rfl | old
      · exact absurd same apart
      · exact expired.past row old same
  | deleted writes selected =>
    constructor
    · intro row mem
      exact expired.same row (List.mem_filter.mp mem).1
    · intro row mem
      exact expired.past row (List.mem_filter.mp mem).1
  | @updated row write writes keeps selected =>
    obtain ⟨present, named, -⟩ := selectRow_some selected
    have live : call.Live := ⟨by rw [writes]; nofun, by rw [writes]; nofun⟩
    constructor
    · intro changed mem same
      rcases IndexedMap.mem_set mem with rfl | old
      · rw [Write.apply_hash] at same
        rw [Write.apply_id]
        exact expired.same row present same
      · exact expired.same changed old same
    · intro changed mem same
      rcases IndexedMap.mem_set mem with rfl | old
      · rw [Write.apply_hash] at same
        have before := expired.past row present same
        have fits := ready write writes
        cases write with
        | delete | budget | spent => exact before
        | expire nowMs => exact ⟨nowMs, rfl, fits.2⟩
        | fields params =>
          obtain ⟨⟨id, tenantId, asked⟩, -⟩ := fits
          cases lifted : params.expiresAt with
          | none => simpa [Write.apply, lifted] using before
          | some expiresAt =>
            refine absurd ?_ (idle live)
            rw [asked] at named ⊢
            refine ⟨?_, by rw [lifted]; nofun⟩
            exact named.symm.trans (expired.same row present same)
      · exact expired.past changed old same

variable (aes masterKey) in
/-- Nothing is left that could make a token valid again. -/
structure Refused (world : World κ) (revoked : StoredToken) : Prop where
  sound : Sound aes masterKey world
  expired : Expired world.shared revoked
  idle : ∀ call ∈ world.processes, call.Live → ¬call.operation.Restores revoked

theorem step_idle {world : World κ} {revoked : StoredToken} (event : Event)
    (idle : ∀ call ∈ world.processes, call.Live → ¬call.operation.Restores revoked) :
    ∀ call ∈ (step aes masterKey world event).processes,
      call.Live → ¬call.operation.Restores revoked := by
  cases event with
  | tick => exact idle
  | resume i =>
    apply Interleaving.forall_step idle
    intro call _ before live
    rw [advance_operation]
    exact before (advance_live live)

theorem Refused.step {world : World κ} {revoked : StoredToken}
    (refused : Refused aes masterKey world revoked) (event : Event) :
    Refused aes masterKey (step aes masterKey world event) revoked := by
  refine ⟨refused.sound.step event, ?_, step_idle event refused.idle⟩
  cases event with
  | tick ms =>
    refine ⟨refused.expired.same, ?_⟩
    intro row mem same
    obtain ⟨expiresAt, expires, past⟩ := refused.expired.past row mem same
    exact ⟨expiresAt, expires, past.trans (by simp [TokenVault.step, Interleaving.stepEvent, Vault.later])⟩
  | resume i =>
    cases present : world.processes[i]? with
    | none =>
      rw [TokenVault.step, Interleaving.stepEvent, Interleaving.step_none present]
      exact refused.expired
    | some call =>
      have mem := List.mem_of_getElem? present
      rw [TokenVault.step, Interleaving.stepEvent, Interleaving.step_some present]
      exact refused.expired.change (refused.sound.ready call mem) (refused.idle call mem)
        (advance_change _ call)

theorem Refused.run {world : World κ} {revoked : StoredToken}
    (refused : Refused aes masterKey world revoked) (schedule : List Event) :
    Refused aes masterKey (run aes masterKey world schedule) revoked := by
  induction schedule generalizing world with
  | nil => exact refused
  | cons event rest ih => exact ih (refused.step event)

/-- The next statement of a call revokes the row, and no call that is not over restores it. -/
structure Revoking (world : World κ) (i : Nat) (row : StoredToken) : Prop where
  expires : ∃ call nowMs, world.processes[i]? = some call ∧
    call.phase = .writing (.expire nowMs) ∧
      selectRow world.shared.tokens call.operation.id call.operation.tenantId = some row
  idle : ∀ call ∈ world.processes, call.Live → ¬call.operation.Restores row

/-- The statement that revokes a token refuses it. -/
theorem Refused.of_revoking {world : World κ} {i : Nat} {row : StoredToken}
    (sound : Sound aes masterKey world) (revoking : Revoking world i row) :
    Refused aes masterKey (TokenVault.step aes masterKey world (.resume i)) row := by
  obtain ⟨⟨call, nowMs, present, writes, selected⟩, idle⟩ := revoking
  obtain ⟨stored, -, -⟩ := selectRow_some selected
  obtain ⟨-, past⟩ := sound.ready call (List.mem_of_getElem? present) _ writes
  refine ⟨sound.step _, ?_, step_idle _ idle⟩
  have after : (TokenVault.step aes masterKey world (.resume i)).shared =
      { world.shared with
        tokens := world.shared.tokens.set ((Write.expire nowMs).apply row) } := by
    rw [TokenVault.step, Interleaving.stepEvent, Interleaving.step_some present]
    simp only [advance, writes, Write.run, selected]
    rfl
  rw [after]
  have only {other : StoredToken} (same : other.hashSha256 = row.hashSha256)
      (mem : other ∈ (world.shared.tokens.set ((Write.expire nowMs).apply row)).values) :
      other = (Write.expire nowMs).apply row := by
    rcases IndexedMap.mem_set_other mem with rfl | ⟨old, apart⟩
    · rfl
    · rw [Write.apply_key, sound.kept.unique other old row stored same] at apart
      exact absurd rfl apart
  constructor
  · intro other mem same
    rw [only same mem, Write.apply_id]
  · intro other mem same
    rw [only same mem]
    exact ⟨nowMs, rfl, past⟩

/-- The vault after a call's next statement and what comes then. -/
def afterwards (aes : AesGcm κ) (masterKey : KeyInput κ) (world : World κ) (i : Nat)
    (schedule : List Event) : Vault κ :=
  (run aes masterKey (step aes masterKey world (.resume i)) schedule).shared

theorem Revoking.expired {now : Int} {calls : List (Operation κ)} {before : List Event} {i : Nat}
    {row : StoredToken} (revoking : Revoking (run aes masterKey (begin now calls) before) i row)
    (after : List Event) :
    Expired (afterwards aes masterKey (run aes masterKey (begin now calls) before) i after) row :=
  ((Refused.of_revoking ((begin_sound now calls).run before) revoking).run after).expired

/-- Once its row is revoked a token is refused for good, whatever calls go on and whatever time
passes, unless a call that is not over creates the token anew or sets its expiry. -/
theorem revoked_refused [Host] (now : Int) (calls : List (Operation κ))
    (before after : List Event) (i : Nat) (row : StoredToken)
    (revoking : Revoking (run aes masterKey (begin now calls) before) i row)
    (plainToken : String) (hash : Edge.hashToken plainToken = row.hashSha256)
    (requiredProvider : Option String) :
    validateToken (afterwards aes masterKey (run aes masterKey (begin now calls) before) i after)
        plainToken requiredProvider ∈
      [.invalid "expired_token", .invalid "invalid_token"] := by
  have expired := revoking.expired after
  generalize afterwards aes masterKey (run aes masterKey (begin now calls) before) i after = vault
    at expired ⊢
  unfold validateToken
  cases found : findByToken vault.tokens plainToken with
  | none => simp
  | some record =>
    obtain ⟨mem, same⟩ := findByToken_some found
    obtain ⟨expiresAt, expires, past⟩ := expired.past record mem (same.trans hash)
    simp [expires, past]

end Vault

section Examples

attribute [local instance] asciiHost plainEdge

def houseToken : CreateAuthTokenParams UInt8 where
  id := some "a"
  token := "kc-1"
  tenantId := "t1"
  uuid :=
    { text := "00000000-0000-4000-8000-000000000000"
      chars := by simp [hexDigits]
      length := by decide }
  generated := zeroNonce

def houseCalls : List (Operation UInt8) := [.createToken houseToken, .revokeToken "a" (some "t1")]

/-- The token is there, and a revocation has selected it. -/
def house : World UInt8 :=
  run shiftCipher passphrase (begin 0 houseCalls) [.resume 0, .tick 5, .resume 1]

theorem run_serves_house :
    ∃ row ∈ house.shared.tokens.values, ∃ params, .createToken params ∈ houseCalls ∧
      Serves shiftCipher passphrase house.shared params row := by
  have stored : (selectRow house.shared.tokens "a" (some "t1")).isSome = true := by
    decide
  obtain ⟨row, selected⟩ := Option.isSome_iff_exists.mp stored
  obtain ⟨mem, -, -⟩ := selectRow_some selected
  exact ⟨row, mem, run_serves 0 houseCalls [.resume 0, .tick 5, .resume 1] row mem⟩

theorem house_revoking : ∃ row, Revoking house 1 row ∧ row.hashSha256 = "sha256:kc-1" := by
  have calls : house.processes = [{ operation := .createToken houseToken, phase := .returned },
      { operation := .revokeToken "a" (some "t1"), phase := .writing (.expire 5) }] := rfl
  have hashes : (selectRow house.shared.tokens "a" (some "t1")).map (·.hashSha256) =
      some "sha256:kc-1" := by
    decide
  obtain ⟨row, selected, hash⟩ := Option.map_eq_some_iff.mp hashes
  refine ⟨row, ⟨⟨_, 5, congrArg (·[1]?) calls, rfl, selected⟩, ?_⟩, hash⟩
  rw [calls]
  intro call mem live
  simp only [List.mem_cons, List.not_mem_nil, or_false] at mem
  obtain rfl | rfl := mem
  · exact absurd rfl live.1
  · exact id

theorem revoked_refused_house :
    validateToken (afterwards shiftCipher passphrase house 1 [.tick 1]) "kc-1" none ∈
      [.invalid "expired_token", .invalid "invalid_token"] := by
  obtain ⟨row, revoking, hash⟩ := house_revoking
  exact revoked_refused 0 houseCalls [.resume 0, .tick 5, .resume 1] [.tick 1] 1 row revoking
    "kc-1" hash.symm none

/-- Another tenant deletes the token. -/
def intruder : World UInt8 :=
  { house with processes := [{ operation := .deleteToken "a" (some "t2") }] }

theorem run_frame_intruder :
    rowsOf (run shiftCipher passphrase intruder [.resume 0, .resume 0]).shared.tokens "t1" =
      rowsOf intruder.shared.tokens "t1" := by
  apply run_frame
  intro operation mem
  obtain rfl := List.mem_singleton.mp mem
  exact ⟨"t2", rfl, by decide⟩

end Examples

end KeyCollective.TokenVault
