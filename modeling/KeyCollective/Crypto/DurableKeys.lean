import KeyCollective.Crypto.RoundTrip
import KeyCollective.Pool.EncryptedKey

/-!
# The key pool's own decryption

The durable objects open keys with code of their own. It checks more before it starts and reads
the text strictly; what it opens is what the other decryption opens.
-/

namespace KeyCollective.DurableKeys

open Aes

/-- The two variables of the environment. -/
structure Environment where
  kcMasterKey : Option String := none
  masterKey : Option String := none

inductive Failure where
  | emptyMasterKey
  | emptyMasterKeyBytes
  | missingMasterKey
  | missingCiphertext
  | missingNonce
  | nonceBase64
  | nonceLength (bytes : Nat)
  | ciphertextBase64
  | tooShort
  | unauthentic
  | notUtf8
  | givenNonceBase64
  | givenNonceLength (bytes : Nat)
  | emptyPlaintext
  | emptyTenant
  | emptyProvider
deriving DecidableEq, Repr

/-- `detail` is the message of the runtime's own error. -/
def Failure.message (detail : String) : Failure → String
  | emptyMasterKey => "Master encryption key cannot be empty"
  | emptyMasterKeyBytes => "Master encryption key bytes cannot be empty"
  | missingMasterKey => "Master encryption key not provided. Supply masterKey or set " ++
      "KC_MASTER_KEY environment variable."
  | missingCiphertext => "Ciphertext is required for decryption"
  | missingNonce => s!"Nonce is required and must be exactly {nonceLengthBytes} bytes"
  | nonceBase64 => "Failed to decode base64 nonce: " ++ DecryptionFailure.base64.message detail
  | nonceLength bytes =>
    s!"Invalid nonce length: expected {nonceLengthBytes} bytes (96 bits), got {bytes} bytes"
  | ciphertextBase64 =>
    "Failed to decode base64 ciphertext: " ++ DecryptionFailure.base64.message detail
  | tooShort => s!"Ciphertext too short: missing {tagLengthBytes}-byte authentication tag"
  | unauthentic => "AES-GCM decryption failed: invalid ciphertext or corrupted nonce tag"
  | notUtf8 => "Failed to decode decrypted plaintext as UTF-8: " ++ detail
  -- A nonce that is given is decoded with no message of its own.
  | givenNonceBase64 => DecryptionFailure.base64.message detail
  | givenNonceLength bytes =>
    s!"Invalid nonce length: expected {nonceLengthBytes} bytes, got {bytes} bytes"
  | emptyPlaintext => "Plaintext cannot be empty"
  | emptyTenant => "tenantId cannot be empty"
  | emptyProvider => "provider cannot be empty"

section Keys

variable {κ : Type}

def resolveMasterKey (env : Environment) : Option (KeyInput κ) → Except Failure (KeyInput κ)
  | some (.material (.passphrase text)) =>
    if isBlank text then .error .emptyMasterKey else .ok (.material (.passphrase text))
  | some (.material (.bytes bytes)) =>
    if bytes = [] then .error .emptyMasterKeyBytes else .ok (.material (.bytes bytes))
  | some (.cryptoKey key) => .ok (.cryptoKey key)
  | none =>
    match ((env.kcMasterKey.filter (· ≠ "")).or env.masterKey).filter fun text => !isBlank text with
    | some text => .ok (.material (.passphrase text))
    | none => .error .missingMasterKey

variable (aes : AesGcm κ)

/-- An empty secret does not get here. -/
def resolveCryptoKey : KeyInput κ → κ
  | .cryptoKey key => key
  | .material (.passphrase text) => aes.deriveKey (.passphrase text)
  | .material (.bytes bytes) =>
    if bytes.length = encryptionKeyLengthBytes then aes.importRawKey bytes
    else aes.deriveKey (.bytes bytes)

/-- The nonce and the ciphertext of a record. -/
def readRecord (key : EncryptedKey) : Except Failure (Bytes × Bytes) :=
  if isBlank key.ciphertext then .error .missingCiphertext
  else if isBlank key.nonce then .error .missingNonce
  else match base64ToUint8Array key.nonce with
  | none => .error .nonceBase64
  | some nonceBytes =>
    if nonceBytes.length ≠ nonceLengthBytes then .error (.nonceLength nonceBytes.length)
    else match base64ToUint8Array key.ciphertext with
    | none => .error .ciphertextBase64
    | some ciphertextBytes =>
      if ciphertextBytes.length < tagLengthBytes then .error .tooShort
      else .ok (nonceBytes, ciphertextBytes)

section

variable [DecidableEq κ]

def decryptKeyRaw (log : Aes.Sealed κ) (env : Environment) (key : EncryptedKey)
    (masterKey : Option (KeyInput κ)) : Except Failure Bytes :=
  match readRecord key with
  | .error failure => .error failure
  | .ok (nonceBytes, ciphertextBytes) =>
    match resolveMasterKey env masterKey with
    | .error failure => .error failure
    | .ok resolved =>
      match aes.decipher log (resolveCryptoKey aes resolved) nonceBytes ciphertextBytes with
      | some data => .ok data
      | none => .error .unauthentic

def decryptKey (log : Aes.Sealed κ) (env : Environment) (key : EncryptedKey)
    (masterKey : Option (KeyInput κ)) : Except Failure String :=
  match decryptKeyRaw aes log env key masterKey with
  | .error failure => .error failure
  | .ok rawBytes =>
    match bytesToString rawBytes with
    | some text => .ok text
    | none => .error .notUtf8

end

structure EncryptOptions where
  id : Option String := none
  nonce : Option Binary := none
  priority : Option Int := none
  rpmLimit : Option Int := none
  rpdLimit : Option Int := none

/-- The nonce that is given, or a new one. -/
def nonceBytes (options : EncryptOptions) (generated : Nonce) : Except Failure Bytes :=
  match options.nonce with
  | none => .ok generated.bytes
  | some (.bytes bytes) => .ok bytes
  | some (.text text) =>
    match base64ToUint8Array text with
    | some bytes => .ok bytes
    | none => .error .givenNonceBase64

def encryptKey (log : Aes.Sealed κ) (env : Environment) (plaintext : Binary) (tenantId provider : String)
    (masterKey : KeyInput κ) (options : EncryptOptions) (generated : Nonce) (uuid : Uuid) :
    Except Failure EncryptedKey × Aes.Sealed κ :=
  if plaintext = .text "" then (.error .emptyPlaintext, log)
  else if isBlank tenantId then (.error .emptyTenant, log)
  else if isBlank provider then (.error .emptyProvider, log)
  else match nonceBytes options generated with
  | .error failure => (.error failure, log)
  | .ok nonce =>
    if nonce.length ≠ nonceLengthBytes then (.error (.givenNonceLength nonce.length), log)
    else match resolveMasterKey env (some masterKey) with
    | .error failure => (.error failure, log)
    | .ok resolved =>
      let cryptoKey := resolveCryptoKey aes resolved
      let data := match plaintext with
        | .text s => stringToBytes s
        | .bytes b => b
      (.ok
        { id := options.id.getD
            ("key_" ++ provider ++ "_" ++ String.ofList (uuid.text.toList.take 8))
          tenantId := some tenantId
          provider
          ciphertext := uint8ArrayToBase64 (aes.encipher cryptoKey nonce data)
          nonce := uint8ArrayToBase64 nonce
          priority := some (options.priority.getD 100)
          rpmLimit := options.rpmLimit
          rpdLimit := options.rpdLimit
          status := some "active" }, (cryptoKey, nonce, data) :: log)

/-! ## One decryption for the other -/

variable {aes} {log : Aes.Sealed κ} {env : Environment}

/-- A master key that is taken is the same key on either side. -/
theorem resolveKey_of_master {masterKey : Option (KeyInput κ)} {resolved : KeyInput κ}
    (usable : resolveMasterKey env masterKey = .ok resolved) :
    resolveKey aes resolved = .ok (resolveCryptoKey aes resolved) := by
  have nonempty {text : String} (solid : isBlank text = false) : text ≠ "" := by
    rintro rfl
    cases solid
  unfold resolveMasterKey at usable
  split at usable
  · split_ifs at usable with blank
    obtain rfl := Except.ok.inj usable
    simp [resolveKey, resolveCryptoKey, nonempty (Bool.eq_false_iff.mpr blank)]
  · split_ifs at usable with empty
    obtain rfl := Except.ok.inj usable
    simp only [resolveKey, resolveCryptoKey, empty, ↓reduceIte]
    split_ifs <;> rfl
  · obtain rfl := Except.ok.inj usable
    rfl
  · split at usable
    · rename_i text given
      obtain ⟨-, solid⟩ := Option.filter_eq_some_iff.mp given
      obtain rfl := Except.ok.inj usable
      simp [resolveKey, resolveCryptoKey, nonempty (by simpa using solid)]
    · cases usable

theorem base64_blank {text : String} (blank : isBlank text = true) :
    base64ToUint8Array text = some [] := by
  have trimmed : trimChars text.toList = [] := by
    have empty := trim_eq_empty blank
    rw [trim] at empty
    simpa using congrArg String.toList empty
  rw [base64ToUint8Array, trimmed]
  rfl

theorem readRecord_ok {key : EncryptedKey} {nonce ciphertext : Bytes} :
    readRecord key = .ok (nonce, ciphertext) ↔
      base64ToUint8Array key.nonce = some nonce ∧
        base64ToUint8Array key.ciphertext = some ciphertext ∧
          nonce.length = nonceLengthBytes ∧ tagLengthBytes ≤ ciphertext.length := by
  constructor
  · intro read
    unfold readRecord at read
    split_ifs at read with blankCiphertext blankNonce
    split at read
    · cases read
    · rename_i nonceBytes decoded
      split_ifs at read with length
      split at read
      · cases read
      · rename_i ciphertextBytes decoded'
        split_ifs at read with short
        obtain ⟨rfl, rfl⟩ := Prod.mk.inj (Except.ok.inj read)
        exact ⟨decoded, decoded', not_not.mp length, not_lt.mp short⟩
  · rintro ⟨nonceRead, ciphertextRead, length, long⟩
    have solidNonce : isBlank key.nonce = false := by
      refine Bool.eq_false_iff.mpr fun blank => ?_
      rw [base64_blank blank] at nonceRead
      obtain rfl := Option.some.inj nonceRead
      cases length
    have solidCiphertext : isBlank key.ciphertext = false := by
      refine Bool.eq_false_iff.mpr fun blank => ?_
      rw [base64_blank blank] at ciphertextRead
      obtain rfl := Option.some.inj ciphertextRead
      cases long
    simp [readRecord, solidNonce, solidCiphertext, nonceRead, ciphertextRead, length,
      not_lt.mpr long]

variable [DecidableEq κ]

/-- What is opened is longer than its tag. -/
theorem decipher_long {key : κ} {nonce ciphertext data : Bytes}
    (opened : aes.decipher log key nonce ciphertext = some data) :
    tagLengthBytes ≤ ciphertext.length := by
  obtain ⟨⟨key', nonce', data'⟩, found, rfl⟩ := Option.map_eq_some_iff.mp opened
  have fits := List.find?_some found
  simp only [decide_eq_true_eq] at fits
  obtain ⟨-, -, rfl⟩ := fits
  rw [aes.length_encipher]
  exact Nat.le_add_left _ _

theorem decryptKeyRaw_iff {key : EncryptedKey} {masterKey : Option (KeyInput κ)} {data : Bytes} :
    decryptKeyRaw aes log env key masterKey = .ok data ↔
      ∃ resolved, resolveMasterKey env masterKey = .ok resolved ∧
        decryptRaw aes log (.payload (.text key.ciphertext) (.text key.nonce)) resolved none =
          .ok data := by
  constructor
  · intro opened
    unfold decryptKeyRaw at opened
    cases read : readRecord key with
    | error failure =>
      rw [read] at opened
      cases opened
    | ok parts =>
      obtain ⟨nonce, ciphertext⟩ := parts
      obtain ⟨nonceRead, ciphertextRead, length, -⟩ := readRecord_ok.mp read
      rw [read] at opened
      dsimp only at opened
      cases usable : resolveMasterKey env masterKey with
      | error failure =>
        rw [usable] at opened
        cases opened
      | ok resolved =>
        rw [usable] at opened
        dsimp only at opened
        refine ⟨resolved, rfl, ?_⟩
        have parsed : parseDecryptionInput (.payload (.text key.ciphertext) (.text key.nonce))
            none = .ok (ciphertext, nonce) := by
          simp only [parseDecryptionInput, Binary.toBytes, nonceRead, ciphertextRead]
          rfl
        rw [decryptRaw_eq (resolveKey_of_master usable) parsed length]
        cases found : aes.decipher log (resolveCryptoKey aes resolved) nonce ciphertext with
        | none =>
          rw [found] at opened
          cases opened
        | some bytes =>
          rw [found] at opened
          obtain rfl := Except.ok.inj opened
          rfl
  · rintro ⟨resolved, usable, opened⟩
    unfold decryptRaw at opened
    rw [resolveKey_of_master usable] at opened
    dsimp only at opened
    cases parsed : parseDecryptionInput (.payload (.text key.ciphertext) (.text key.nonce)) none with
    | error failure =>
      rw [parsed] at opened
      cases opened
    | ok parts =>
      obtain ⟨ciphertext, nonce⟩ := parts
      have reads : base64ToUint8Array key.ciphertext = some ciphertext ∧
          base64ToUint8Array key.nonce = some nonce := by
        simp only [parseDecryptionInput, Binary.toBytes] at parsed
        cases first : base64ToUint8Array key.ciphertext with
        | none =>
          rw [first] at parsed
          cases parsed
        | some bytes =>
          cases second : base64ToUint8Array key.nonce with
          | none =>
            rw [first, second] at parsed
            cases parsed
          | some bytes' =>
            rw [first, second] at parsed
            obtain ⟨rfl, rfl⟩ := Prod.mk.inj (Except.ok.inj parsed)
            exact ⟨rfl, rfl⟩
      rw [parsed] at opened
      simp only [bind, Except.bind] at opened
      by_cases length : nonce.length = nonceLengthBytes
      · simp only [length, ne_eq, not_true_eq_false, ↓reduceIte, pure, Except.pure] at opened
        cases found : aes.decipher log (resolveCryptoKey aes resolved) nonce ciphertext with
        | none =>
          rw [found] at opened
          cases opened
        | some bytes =>
          rw [found] at opened
          obtain rfl := Except.ok.inj opened
          have read : readRecord key = .ok (nonce, ciphertext) :=
            readRecord_ok.mpr ⟨reads.2, reads.1, length, decipher_long found⟩
          simp only [decryptKeyRaw, read, usable, found]
      · simp only [ne_eq, length, not_false_eq_true, ↓reduceIte] at opened
        cases opened

/-- The key pool opens a record to a text exactly when the repository's decryption opens it, under
the key that the pool resolves, to bytes that are the text in UTF-8. -/
theorem decryptKey_iff (aes : AesGcm κ) (log : Aes.Sealed κ) (env : Environment)
    (key : EncryptedKey) (masterKey : Option (KeyInput κ)) (text : String) :
    decryptKey aes log env key masterKey = .ok text ↔
      ∃ resolved data, resolveMasterKey env masterKey = .ok resolved ∧
        decryptRaw aes log (.payload (.text key.ciphertext) (.text key.nonce)) resolved none =
          .ok data ∧ bytesToString data = some text := by
  constructor
  · intro opened
    unfold decryptKey at opened
    cases read : decryptKeyRaw aes log env key masterKey with
    | error failure =>
      rw [read] at opened
      cases opened
    | ok data =>
      rw [read] at opened
      dsimp only at opened
      obtain ⟨resolved, usable, same⟩ := decryptKeyRaw_iff.mp read
      cases decoded : bytesToString data with
      | none =>
        rw [decoded] at opened
        cases opened
      | some text' =>
        rw [decoded] at opened
        obtain rfl := Except.ok.inj opened
        exact ⟨resolved, data, usable, same, decoded⟩
  · rintro ⟨resolved, data, usable, same, decoded⟩
    simp only [decryptKey, decryptKeyRaw_iff.mpr ⟨resolved, usable, same⟩, decoded]

/-! ## Encryption -/

omit [DecidableEq κ] in
/-- What was sealed, and under what. -/
theorem encryptKey_ok {plaintext tenantId provider : String} {masterKey : KeyInput κ}
    {options : EncryptOptions} {generated : Nonce} {uuid : Uuid} {record : EncryptedKey}
    (done : (encryptKey aes log env (.text plaintext) tenantId provider masterKey options generated
      uuid).1 = .ok record) :
    ∃ resolved nonce, resolveMasterKey env (some masterKey) = .ok resolved ∧
      nonce.length = nonceLengthBytes ∧
      record.ciphertext = uint8ArrayToBase64 (aes.encipher (resolveCryptoKey aes resolved) nonce
        (stringToBytes plaintext)) ∧
      record.nonce = uint8ArrayToBase64 nonce ∧
      (resolveCryptoKey aes resolved, nonce, stringToBytes plaintext) ∈
        (encryptKey aes log env (.text plaintext) tenantId provider masterKey options generated
          uuid).2 := by
  unfold encryptKey at done ⊢
  split_ifs at done ⊢
  cases drawn : nonceBytes options generated with
  | error failure =>
    rw [drawn] at done
    cases done
  | ok nonce =>
    rw [drawn] at done
    dsimp only at done ⊢
    by_cases length : nonce.length = nonceLengthBytes
    · simp only [length, ne_eq, not_true_eq_false, ↓reduceIte] at done ⊢
      cases usable : resolveMasterKey env (some masterKey) with
      | error failure =>
        rw [usable] at done
        cases done
      | ok resolved =>
        rw [usable] at done
        dsimp only at done ⊢
        obtain rfl := Except.ok.inj done
        exact ⟨resolved, nonce, rfl, length, rfl, rfl, List.mem_cons_self⟩
    · simp only [length, ne_eq, not_false_eq_true, ↓reduceIte] at done
      cases done

/-- A key that the pool's code sealed comes back from the pool and from the repository alike,
whatever has been sealed since, and as it was exactly when it has no byte order mark. -/
theorem encryptKey_opens (aes : AesGcm κ) (before : Aes.Sealed κ) (env : Environment)
    (plaintext tenantId provider : String) (masterKey : KeyInput κ) (options : EncryptOptions)
    (generated : Nonce) (uuid : Uuid) (record : EncryptedKey)
    (done : (encryptKey aes before env (.text plaintext) tenantId provider masterKey options
      generated uuid).1 = .ok record) (later : Aes.Sealed κ)
    (kept : (encryptKey aes before env (.text plaintext) tenantId provider masterKey options
      generated uuid).2 ⊆ later) :
    decryptKey aes later env record (some masterKey) = .ok (unmarked plaintext) ∧
      (∀ resolved, resolveMasterKey env (some masterKey) = .ok resolved →
        Aes.decrypt aes later (.payload (.text record.ciphertext) (.text record.nonce)) resolved
          none = .ok (unmarked plaintext)) ∧
      (unmarked plaintext = plaintext ↔ plaintext.toList.head? ≠ some '\uFEFF') := by
  obtain ⟨resolved, nonce, usable, length, ciphertext, written, sealed⟩ := encryptKey_ok done
  have parsed : parseDecryptionInput (.payload (.text record.ciphertext) (.text record.nonce)) none =
      .ok (aes.encipher (resolveCryptoKey aes resolved) nonce (stringToBytes plaintext), nonce) := by
    simp only [parseDecryptionInput, Binary.toBytes, ciphertext, written,
      base64ToUint8Array_uint8ArrayToBase64]
    rfl
  have raw : decryptRaw aes later (.payload (.text record.ciphertext) (.text record.nonce)) resolved
      none = .ok (stringToBytes plaintext) := by
    rw [decryptRaw_eq (resolveKey_of_master usable) parsed length,
      decipher_encipher (kept sealed)]
  refine ⟨?_, ?_, unmarked_eq_self_iff plaintext⟩
  · rw [decryptKey_iff]
    exact ⟨resolved, _, usable, raw, bytesToString_stringToBytes plaintext⟩
  · intro other same
    obtain rfl := Except.ok.inj (usable.symm.trans same)
    rw [Aes.decrypt, raw]
    exact congrArg Except.ok (decodeText_stringToBytes plaintext)

end Keys

section Examples

def groqUuid : Uuid where
  text := "9a0b1c2d-3e4f-4a5b-8c6d-7e8f90a1b2c3"
  chars := by simp [hexDigits]
  length := by decide

theorem encryptKey_opens_groq : ∃ record,
    (encryptKey shiftCipher [] {} (.text "gsk_1") "acme" "groq" passphrase {} zeroNonce groqUuid).1 =
      .ok record ∧
    decryptKey shiftCipher
      (encryptKey shiftCipher [] {} (.text "gsk_1") "acme" "groq" passphrase {} zeroNonce
        groqUuid).2 {} record (some passphrase) = .ok (unmarked "gsk_1") :=
  ⟨_, rfl, (encryptKey_opens shiftCipher [] {} "gsk_1" "acme" "groq" passphrase {} zeroNonce
    groqUuid _ rfl _ (List.Subset.refl _)).1⟩

end Examples

end KeyCollective.DurableKeys
