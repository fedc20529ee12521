import KeyCollective.Storage.KeyUpdates

/-!
# Rows of one piece

Updates of a key can overwrite each other. In no order do they mix: the ciphertext, the nonce
and the mask of a row always come from one call of its own tenant.
-/

namespace KeyCollective.ApiKeyRepository

/-- The columns that belong together. -/
structure Credential where
  encryptedKeyB64 : String
  nonceB64 : String
  mask : String × String
deriving DecidableEq

def credential (row : StoredKey) : Credential where
  encryptedKeyB64 := row.encryptedKeyB64
  nonceB64 := row.nonceB64
  mask := (row.keyPrefix, row.keySuffix)

theorem getById_some {table : StoredKeys} {id : String} {tenantId : Option String}
    {row : StoredKey} (found : getById table id tenantId = some row) :
    row ∈ table.values ∧ ∀ named, tenantId = some named → row.tenantId = named := by
  obtain ⟨stored, ours⟩ := Option.filter_eq_some_iff.mp found
  refine ⟨(IndexedMap.get?_some stored).1, ?_⟩
  intro named given
  subst given
  simpa using ours

@[simp] theorem KeyWrite.apply_id (row : StoredKey) (write : KeyWrite) :
    (write.apply row).id = row.id := by
  cases write <;> rfl

@[simp] theorem KeyWrite.apply_tenant (row : StoredKey) (write : KeyWrite) :
    (write.apply row).tenantId = row.tenantId := by
  cases write <;> rfl

section Whole

variable {κ : Type}

/-- A call of the tenant asked for the plaintext to be stored under the secret. -/
inductive Asks (operations : List (KeyOperation κ)) (tenantId : String) (secret : KeyMaterial)
    (plaintext : String) : Prop where
  | create {input : CreateApiKeyInput} {uuid : Uuid} {nonceB64 now : String} :
    .create input (some (.material secret)) uuid nonceB64 now ∈ operations →
    input.tenantId = tenantId → input.plaintextKey = plaintext →
      Asks operations tenantId secret plaintext
  | update {id nonceB64 : String} {updates : UpdateApiKeyInput} :
    .update id tenantId updates (some (.material secret)) nonceB64 ∈ operations →
    updates.plaintextKey = some plaintext → Asks operations tenantId secret plaintext

variable [Cipher κ]

/-- What a call of the tenant supplied, all of it. -/
inductive Supplied (operations : List (KeyOperation κ)) (tenantId : String) : Credential → Prop where
  | sealed {secret : KeyMaterial} {plaintext : String} (nonceB64 : String) :
    Asks operations tenantId secret plaintext →
    (KeyInput.material secret : KeyInput κ).isFalsy = false →
      Supplied operations tenantId
        { encryptedKeyB64 :=
            Cipher.encrypt (Cipher.deriveTenantKey secret tenantId : κ) nonceB64 plaintext
          nonceB64
          mask := maskApiKey plaintext }
  | inserted {input : InsertEncryptedApiKeyInput} {uuid : Uuid} {now : String} :
    .insertEncryptedKey input uuid now ∈ operations → input.tenantId = tenantId →
      Supplied operations tenantId (credential (insertedRow input uuid now))

variable {operations : List (KeyOperation κ)}

/-- Every row has what one call supplied. -/
structure WholeRows (operations : List (KeyOperation κ)) (table : StoredKeys) : Prop where
  supplied : ∀ row ∈ table.values, Supplied operations row.tenantId (credential row)

/-- So has every row that a call holds in hand. -/
structure WholeCall (operations : List (KeyOperation κ)) (call : KeyCall κ) : Prop where
  asked : call.operation ∈ operations
  held : ∀ put, call.phase = .writing (.columns put) →
    Supplied operations call.operation.target.2 (credential put)

theorem WholeRows.set {table : StoredKeys} {row : StoredKey} (whole : WholeRows operations table)
    (supplied : Supplied operations row.tenantId (credential row)) :
    WholeRows operations (table.set row) := by
  constructor
  intro other mem
  rcases IndexedMap.mem_set mem with rfl | old
  · exact supplied
  · exact whole.supplied other old

theorem WholeRows.delete {table : StoredKeys} (whole : WholeRows operations table) (id : String) :
    WholeRows operations (table.delete id) :=
  ⟨fun row mem => whole.supplied row (List.mem_filter.mp mem).1⟩

theorem WholeRows.write {table : StoredKeys} {id tenantId : String} {write : KeyWrite}
    (whole : WholeRows operations table)
    (held : ∀ put, write = .columns put → Supplied operations tenantId (credential put)) :
    WholeRows operations (write.run table id tenantId) := by
  unfold KeyWrite.run
  cases found : getById table id (some tenantId) with
  | none => exact whole
  | some row =>
    obtain ⟨stored, ours⟩ := getById_some found
    cases write with
    | columns put =>
      apply whole.set
      rw [KeyWrite.apply_tenant, ours tenantId rfl]
      exact held put rfl
    | status status circuitOpenUntil =>
      apply whole.set
      exact whole.supplied row stored
    | delete => exact whole.delete row.id

theorem rotated_supplied {existing row : StoredKey} {id tenantId nonceB64 : String}
    {updates : UpdateApiKeyInput} {masterKey : Option (KeyInput κ)}
    (asked : .update id tenantId updates masterKey nonceB64 ∈ operations)
    (supplied : Supplied operations tenantId (credential existing))
    (done : rotated existing tenantId updates masterKey nonceB64 = .ok row) :
    Supplied operations tenantId (credential row) := by
  unfold rotated at done
  cases given : updates.plaintextKey with
  | none =>
    rw [given] at done
    obtain rfl := Except.ok.inj done
    exact supplied
  | some plaintextKey =>
    rw [given] at done
    dsimp only at done
    split_ifs at done
    split at done
    · cases done
    · cases done
    · rename_i secret usable
      obtain ⟨same, truthy⟩ := Option.filter_eq_some_iff.mp usable
      obtain rfl := Except.ok.inj done
      subst same
      exact .sealed nonceB64 (.update asked given) (by simpa using truthy)

variable [NumberText]

theorem updated_supplied {existing row : StoredKey} {id tenantId nonceB64 : String}
    {updates : UpdateApiKeyInput} {masterKey : Option (KeyInput κ)}
    (asked : .update id tenantId updates masterKey nonceB64 ∈ operations)
    (supplied : Supplied operations tenantId (credential existing))
    (done : updated existing tenantId updates masterKey nonceB64 = .ok row) :
    Supplied operations tenantId (credential row) := by
  unfold updated at done
  cases rotation : rotated existing tenantId updates masterKey nonceB64 with
  | error failure =>
    rw [rotation] at done
    cases done
  | ok put =>
    rw [rotation] at done
    dsimp only at done
    split_ifs at done
    split at done
    · cases done
    · obtain rfl := Except.ok.inj done
      have whole := rotated_supplied asked supplied rotation
      exact whole

/-- The first statement of a call. -/
theorem begin_whole {table : StoredKeys} {operation : KeyOperation κ}
    (whole : WholeRows operations table) (asked : operation ∈ operations) :
    WholeRows operations (begin table operation).1 ∧
      ∀ put, (begin table operation).2 = .writing (.columns put) →
        Supplied operations operation.target.2 (credential put) := by
  cases operation with
  | create input masterKey uuid nonceB64 now =>
    simp only [begin]
    cases done : ApiKeyRepository.create table input masterKey uuid nonceB64 now with
    | error failure => exact ⟨whole, fun _ held => by cases held⟩
    | ok created =>
      refine ⟨?_, fun _ held => by cases held⟩
      obtain ⟨-, -, secret, rfl, usable, row, -⟩ := create_ok done
      have stored : created.2 = table.set created.1 := by
        unfold ApiKeyRepository.create at done
        split at done
        · cases done
        · split at done
          · cases done
          · cases done
          · dsimp only at done
            split_ifs at done
            rw [← Except.ok.inj done]
      change WholeRows operations created.2
      rw [stored, row]
      exact whole.set (.sealed nonceB64 (.create asked rfl rfl) usable)
  | insertEncryptedKey input uuid now =>
    simp only [begin, insertEncryptedKey]
    split
    · rename_i failure failed
      exact ⟨whole, fun _ held => by cases held⟩
    · rename_i inserted done
      refine ⟨?_, fun _ held => by cases held⟩
      split at done
      · cases done
      · split_ifs at done
        rw [← Except.ok.inj done]
        exact whole.set (.inserted asked rfl)
  | update id tenantId updates masterKey nonceB64 =>
    simp only [begin]
    cases found : getById table id (some tenantId) with
    | none => exact ⟨whole, fun _ held => by cases held⟩
    | some existing =>
      obtain ⟨stored, ours⟩ := getById_some found
      have supplied := whole.supplied existing stored
      rw [ours tenantId rfl] at supplied
      dsimp only
      cases done : updated existing tenantId updates masterKey nonceB64 with
      | error failure => exact ⟨whole, fun _ held => by cases held⟩
      | ok row =>
        refine ⟨whole, ?_⟩
        intro put held
        cases held
        exact updated_supplied asked supplied done
  | updateStatus id tenantId status circuitOpenUntil =>
    simp only [begin]
    by_cases unknown : status ∉ keyStatuses
    · rw [if_pos unknown]
      exact ⟨whole, fun _ held => by cases held⟩
    · rw [if_neg unknown]
      split
      · exact ⟨whole, fun _ held => by cases held⟩
      · exact ⟨whole, fun _ held => by cases held⟩
  | recordUsage id tenantId timestamp =>
    simp only [begin]
    cases found : getById table id tenantId with
    | none => exact ⟨whole, fun _ held => by cases held⟩
    | some row => exact ⟨whole.set (whole.supplied row (getById_some found).1), fun _ held => by cases held⟩
  | delete id tenantId =>
    simp only [begin]
    split
    · exact ⟨whole, fun _ held => by cases held⟩
    · exact ⟨whole, fun _ held => by cases held⟩

theorem advance_whole (table : StoredKeys) (call : KeyCall κ) (whole : WholeRows operations table)
    (held : WholeCall operations call) :
    WholeRows operations (advance table call).1 ∧ WholeCall operations (advance table call).2 := by
  unfold advance
  cases now : call.phase with
  | starting =>
    obtain ⟨kept, next⟩ := begin_whole whole held.asked
    exact ⟨kept, held.asked, next⟩
  | writing write =>
    refine ⟨whole.write fun put same => held.held put (same ▸ now), held.asked, fun _ held => by cases held⟩
  | returned => exact ⟨whole, held⟩
  | threw failure => exact ⟨whole, held⟩

/-- No key and no call under way. -/
def opening (calls : List (KeyOperation κ)) : Interleaving.System StoredKeys (KeyCall κ) where
  shared := IndexedMap.empty
  processes := calls.map fun operation => { operation }

/-- `getDecryptedKey`. None is any error. -/
def getDecryptedKey (table : StoredKeys) (id tenantId : String)
    (masterKey : Option (KeyInput κ)) : Option String :=
  match getById table id (some tenantId), masterKey.filter fun key => !key.isFalsy with
  | some row, some (.material secret) =>
    Cipher.decrypt (Cipher.deriveTenantKey secret row.tenantId : κ) row.encryptedKeyB64 row.nonceB64
  | _, _ => none

/-- Whatever calls run and however their statements interleave, a row is as one call of its tenant
supplied it: it opens, under the secret of that call, to the key that the call was given and that
the row's mask is of, less a byte order mark at its start, or it is an encrypted key just as it was
inserted. -/
theorem run_whole [IdealCipher κ] (calls : List (KeyOperation κ)) (schedule : List Nat) :
    ∀ row ∈ (Interleaving.run advance (opening calls) schedule).shared.values,
      (∃ secret plaintext, Asks calls row.tenantId secret plaintext ∧
        getDecryptedKey (Interleaving.run advance (opening calls) schedule).shared row.id
            row.tenantId (some (.material secret) : Option (KeyInput κ)) =
              some (unmarked plaintext) ∧
          (row.keyPrefix, row.keySuffix) = maskApiKey plaintext) ∨
      ∃ input uuid now, .insertEncryptedKey input uuid now ∈ calls ∧
        input.tenantId = row.tenantId ∧ credential row = credential (insertedRow input uuid now) := by
  intro row mem
  have fresh : ∀ call ∈ (opening calls).processes, WholeCall calls call := by
    intro call mem
    obtain ⟨operation, asked, rfl⟩ := List.mem_map.mp mem
    exact ⟨asked, fun _ held => by cases held⟩
  have empty : WholeRows calls (opening calls).shared :=
    ⟨fun _ mem => absurd mem List.not_mem_nil⟩
  have whole := (Interleaving.run_keeps empty fresh advance_whole schedule).1
  have found : getById (Interleaving.run advance (opening calls) schedule).shared row.id
      (some row.tenantId) = some row := by
    rw [getById, show row.id = StoredKey.id row from rfl, IndexedMap.get?_of_mem mem]
    simp
  have supplied := whole.supplied row mem
  generalize held : credential row = columns at supplied
  cases supplied with
  | @sealed secret plaintext nonceB64 asks usable =>
    left
    refine ⟨secret, plaintext, asks, ?_, congrArg Credential.mask held⟩
    have ciphertext := congrArg Credential.encryptedKeyB64 held
    have nonce := congrArg Credential.nonceB64 held
    dsimp only [credential] at ciphertext nonce
    simp only [getDecryptedKey, found, Option.filter_some, usable, Bool.not_false, ↓reduceIte]
    rw [ciphertext, nonce]
    exact IdealCipher.decrypt_encrypt _ _ _
  | inserted asked ours => exact Or.inr ⟨_, _, _, asked, ours, rfl⟩

end Whole

section Examples

/-- The text of a box without its lid. -/
def openBox : List Char → Option String
  | '#' :: text => some (String.ofList text)
  | _ => none

/-- One key, under which a text is put in a box. -/
@[reducible] def boxCipher : Cipher Unit where
  deriveTenantKey _ _ := ()
  ownKey _ := some ()
  encrypt _ _ plaintext := String.ofList ('#' :: plaintext.toList)
  decrypt _ ciphertext _ := (openBox ciphertext.toList).map unmarked

attribute [local instance] boxCipher integerText

theorem ideal_boxCipher : IdealCipher Unit where
  decrypt_encrypt key nonce plaintext := by
    simp [Cipher.decrypt, Cipher.encrypt, openBox]
  decrypt_some {key ciphertext nonce plaintext} opened := by
    obtain ⟨sealed, read, rfl⟩ := Option.map_eq_some_iff.mp opened
    refine ⟨sealed, ?_, rfl⟩
    unfold openBox at read
    split at read
    · rename_i text boxed
      obtain rfl := Option.some.inj read
      apply String.toList_injective
      simpa [Cipher.encrypt] using boxed
    · cases read
  encrypt_key _ := rfl
  encrypt_ne_empty key nonce plaintext empty := by
    have nil := congrArg String.toList empty
    simp [Cipher.encrypt] at nil

def pool : KeyInput Unit := .material (.passphrase "master")

/-- A key is created; then its rotation and the change of its label read it before either writes. -/
def racing : List (KeyOperation Unit) :=
  [.create
      { id := some "k", tenantId := "acme", label := "one", provider := "groq",
        plaintextKey := "gsk_first_key" }
      (some pool)
      { text := "7c1d2e3f-4a5b-4c6d-9e8f-0a1b2c3d4e5f"
        chars := by simp [hexDigits]
        length := by decide } "n1" "2026-09-10T00:00:00.000Z",
    .update "k" "acme" { plaintextKey := some "gsk_second_key" } (some pool) "n2",
    .update "k" "acme" { label := some "two" } (some pool) "n3"]

/-- The rotation is lost, and the row is of one piece. -/
theorem run_whole_racing : ∃ row,
    row ∈ (Interleaving.run advance (opening racing) [0, 1, 2, 1, 2]).shared.values ∧
      row.label = "two" ∧
      ∃ secret plaintext, Asks racing row.tenantId secret plaintext ∧
        getDecryptedKey (Interleaving.run advance (opening racing) [0, 1, 2, 1, 2]).shared row.id
            row.tenantId (some (.material secret) : Option (KeyInput Unit)) =
              some (unmarked plaintext) ∧
          (row.keyPrefix, row.keySuffix) = maskApiKey plaintext := by
  have := ideal_boxCipher
  have stored : ((Interleaving.run advance (opening racing) [0, 1, 2, 1, 2]).shared.values.map
      fun row => row.label) = ["two"] := by
    decide
  obtain ⟨row, mem, label⟩ := List.mem_map.mp (stored ▸ List.mem_singleton_self "two")
  refine ⟨row, mem, label, ?_⟩
  rcases run_whole racing [0, 1, 2, 1, 2] row mem with sealed | ⟨input, uuid, now, inserted, -⟩
  · exact sealed
  · simp [racing] at inserted

end Examples

end KeyCollective.ApiKeyRepository
