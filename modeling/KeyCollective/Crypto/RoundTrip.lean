import KeyCollective.Crypto.Aes

/-!
# What decryption makes of what encryption produced

Every form of a payload is read as the ciphertext and the nonce it was made of, and opens to
the bytes of the plaintext. The text decoder, at the end, drops a byte order mark.
-/

namespace KeyCollective.Aes

variable {κ : Type} (aes : AesGcm κ)

namespace EncryptedPayload

variable (payload : EncryptedPayload)

/-- The ciphertext, as bytes or in base64. -/
def IsCiphertext (input : Binary) : Prop :=
  input = .bytes payload.ciphertext ∨ input = .text payload.ciphertextB64

def IsNonce (input : Binary) : Prop :=
  input = .bytes payload.nonce ∨ input = .text payload.nonceB64

def IsCombined (input : Binary) : Prop :=
  input = .bytes payload.combined ∨ input = .text payload.combinedB64

/-- The forms in which `decrypt` takes a payload. An object has its own nonce, whatever comes
with it. -/
inductive Presents : DecryptionInput → Option Binary → Prop where
  | object {ciphertext nonce : Binary} (nonceParam : Option Binary) :
    payload.IsCiphertext ciphertext → payload.IsNonce nonce →
      Presents (.payload ciphertext nonce) nonceParam
  | separate {ciphertext nonce : Binary} :
    payload.IsCiphertext ciphertext → payload.IsNonce nonce →
      Presents (.binary ciphertext) (some nonce)
  | combined {input : Binary} : payload.IsCombined input → Presents (.binary input) none

/-- The texts in which the service takes a nonce. -/
def NonceText (nonce : String) : Prop :=
  nonce = payload.nonceB64 ∨ HexText payload.nonce nonce

end EncryptedPayload

/-- A payload of a plaintext, sealed under a key and on record. -/
structure Produced (log : Sealed κ) (cryptoKey : κ) (plaintext : String)
    (payload : EncryptedPayload) : Prop where
  nonce : payload.nonce.length = nonceLengthBytes
  ciphertext : payload.ciphertext =
    aes.encipher cryptoKey payload.nonce (stringToBytes plaintext)
  combined : payload.combined = payload.nonce ++ payload.ciphertext
  ciphertextB64 : payload.ciphertextB64 = uint8ArrayToBase64 payload.ciphertext
  nonceB64 : payload.nonceB64 = uint8ArrayToBase64 payload.nonce
  combinedB64 : payload.combinedB64 = uint8ArrayToBase64 payload.combined
  recorded : (cryptoKey, payload.nonce, stringToBytes plaintext) ∈ log

variable {aes}

theorem encrypt_produced {log : Sealed κ} {plaintext : String} {key : KeyInput κ}
    {customNonce : Option Bytes} {generated : Nonce} {payload : EncryptedPayload}
    (done : (encrypt aes log (.text plaintext) key customNonce generated).1 = .ok payload) :
    ∃ cryptoKey, resolveKey aes key = .ok cryptoKey ∧
      Produced aes (encrypt aes log (.text plaintext) key customNonce generated).2 cryptoKey
        plaintext payload := by
  cases resolved : resolveKey aes key with
  | error failure =>
    simp only [encrypt, resolved] at done
    split at done <;> cases done
  | ok cryptoKey =>
    by_cases length : (customNonce.getD generated.bytes).length = nonceLengthBytes
    · simp only [encrypt, resolved, length, ne_eq, not_true_eq_false, ↓reduceIte] at done ⊢
      obtain rfl := Except.ok.inj done
      exact ⟨cryptoKey, rfl, length, rfl, rfl, rfl, rfl, rfl, List.mem_cons_self⟩
    · simp only [encrypt, length, ne_eq, not_false_eq_true, ↓reduceIte] at done
      cases done

theorem Produced.later {log later : Sealed κ} {cryptoKey : κ} {plaintext : String}
    {payload : EncryptedPayload} (produced : Produced aes log cryptoKey plaintext payload)
    (kept : log ⊆ later) : Produced aes later cryptoKey plaintext payload :=
  { produced with recorded := kept produced.recorded }

/-- Either form of some bytes is read as them. -/
theorem Binary.toBytes_eq {bytes : Bytes} {b64 : String} {input : Binary}
    (written : b64 = uint8ArrayToBase64 bytes)
    (form : input = .bytes bytes ∨ input = .text b64) : input.toBytes = .ok bytes := by
  rcases form with rfl | rfl
  · rfl
  · rw [written, Binary.toBytes, base64ToUint8Array_uint8ArrayToBase64]

section Parse

variable {log : Sealed κ} {cryptoKey : κ} {plaintext : String} {payload : EncryptedPayload}
  (produced : Produced aes log cryptoKey plaintext payload)
include produced

/-- A nonce and a tag at the least. -/
theorem Produced.combined_long :
    nonceLengthBytes + tagLengthBytes ≤ payload.combined.length := by
  rw [produced.combined, List.length_append, produced.nonce, produced.ciphertext,
    aes.length_encipher]
  omega

/-- No form is taken for another. -/
theorem Produced.parse {input : DecryptionInput} {nonceParam : Option Binary}
    (presents : payload.Presents input nonceParam) :
    parseDecryptionInput input nonceParam = .ok (payload.ciphertext, payload.nonce) := by
  cases presents with
  | object nonceParam ciphertext nonce =>
    simp only [parseDecryptionInput, Binary.toBytes_eq produced.ciphertextB64 ciphertext,
      Binary.toBytes_eq produced.nonceB64 nonce]
    rfl
  | separate ciphertext nonce =>
    simp only [parseDecryptionInput, Binary.toBytes_eq produced.ciphertextB64 ciphertext,
      Binary.toBytes_eq produced.nonceB64 nonce]
    rfl
  | combined combined =>
    have long := produced.combined_long
    have behind : payload.combined.drop nonceLengthBytes = payload.ciphertext := by
      rw [produced.combined, List.drop_left' produced.nonce]
    have ahead : payload.combined.take nonceLengthBytes = payload.nonce := by
      rw [produced.combined, List.take_left' produced.nonce]
    simp only [parseDecryptionInput, Binary.toBytes_eq produced.combinedB64 combined, bind, Except.bind,
      not_lt.mpr long, ↓reduceIte, behind, ahead]
    rfl

theorem Produced.decode_nonce {nonce : String} (text : payload.NonceText nonce) :
    decodeBase64OrHex nonce (some nonceLengthBytes) = some payload.nonce := by
  rcases text with rfl | hex
  · rw [produced.nonceB64]
    exact decodeBase64OrHex_nonce produced.nonce
  · exact hex.decodeBase64OrHex_nonce produced.nonce

end Parse

variable [DecidableEq κ]

/-! ## The cipher -/

theorem decipher_encipher {log : Sealed κ} {key : κ} {nonce data : Bytes}
    (recorded : (key, nonce, data) ∈ log) :
    aes.decipher log key nonce (aes.encipher key nonce data) = some data := by
  rw [AesGcm.decipher]
  cases found : log.find? fun sealed => sealed.1 = key ∧ sealed.2.1 = nonce ∧
      aes.encipher key nonce sealed.2.2 = aes.encipher key nonce data with
  | none =>
    have missing := List.find?_eq_none.mp found _ recorded
    simp at missing
  | some sealed =>
    have fits := List.find?_some found
    simp only [decide_eq_true_eq] at fits
    exact congrArg some (aes.encipher_injective key nonce fits.2.2)

/-- Only what was sealed is opened. -/
theorem decipher_recorded {log : Sealed κ} {key : κ} {nonce ciphertext data : Bytes}
    (opened : aes.decipher log key nonce ciphertext = some data) : (key, nonce, data) ∈ log := by
  obtain ⟨⟨key', nonce', data'⟩, found, rfl⟩ := Option.map_eq_some_iff.mp opened
  have fits := List.find?_some found
  simp only [decide_eq_true_eq] at fits
  obtain ⟨rfl, rfl, -⟩ := fits
  exact List.mem_of_find?_eq_some found

/-- Under a nonce that sealed one text only, nothing else is opened. -/
theorem decipher_unique {log : Sealed κ} {key : κ} {nonce data : Bytes}
    (once : ∀ other, (key, nonce, other) ∈ log → other = data) {ciphertext opened : Bytes}
    (read : aes.decipher log key nonce ciphertext = some opened) : opened = data :=
  once opened (decipher_recorded read)

/-! ## Decryption -/

section Decryption

variable {log : Sealed κ} {cryptoKey : κ} {plaintext : String} {payload : EncryptedPayload}

theorem decryptRaw_eq {key : KeyInput κ} (resolved : resolveKey aes key = .ok cryptoKey)
    {input : DecryptionInput} {nonceParam : Option Binary} {ciphertext nonce : Bytes}
    (parsed : parseDecryptionInput input nonceParam = .ok (ciphertext, nonce))
    (length : nonce.length = nonceLengthBytes) :
    decryptRaw aes log input key nonceParam =
      match aes.decipher log cryptoKey nonce ciphertext with
      | some data => .ok data
      | none => .error .unauthentic := by
  simp only [decryptRaw, resolved, parsed, bind, Except.bind, length, ne_eq, not_true_eq_false,
    ↓reduceIte]
  rfl

theorem Produced.opens (produced : Produced aes log cryptoKey plaintext payload) :
    aes.decipher log cryptoKey payload.nonce payload.ciphertext =
      some (stringToBytes plaintext) := by
  rw [produced.ciphertext]
  exact decipher_encipher produced.recorded

theorem Produced.decrypt (produced : Produced aes log cryptoKey plaintext payload)
    {key : KeyInput κ} (resolved : resolveKey aes key = .ok cryptoKey)
    {input : DecryptionInput} {nonceParam : Option Binary}
    (presents : payload.Presents input nonceParam) :
    Aes.decrypt aes log input key nonceParam = .ok (unmarked plaintext) := by
  rw [Aes.decrypt, decryptRaw_eq resolved (produced.parse presents) produced.nonce,
    produced.opens]
  exact congrArg Except.ok (decodeText_stringToBytes plaintext)

namespace EncryptionService

/-- What the service makes of a ciphertext and a nonce of bytes. -/
theorem decryptRaw_service (produced : Produced aes log cryptoKey plaintext payload)
    (ciphertext : Bytes) :
    decryptRaw aes log (.binary (.bytes ciphertext)) (.cryptoKey cryptoKey)
        (some (.bytes payload.nonce)) =
      match aes.decipher log cryptoKey payload.nonce ciphertext with
      | some data => .ok data
      | none => .error .unauthentic :=
  decryptRaw_eq rfl rfl produced.nonce

theorem decrypt_base64 (produced : Produced aes log cryptoKey plaintext payload) {nonce : String}
    (text : payload.NonceText nonce) :
    decrypt aes log cryptoKey payload.ciphertextB64 nonce = .ok (unmarked plaintext) := by
  have read : decodeBase64OrHex payload.ciphertextB64 = some payload.ciphertext := by
    rw [produced.ciphertextB64]
    exact decodeBase64OrHex_base64 payload.ciphertext
  simp only [decrypt, produced.decode_nonce text, read, decryptRaw_service produced,
    produced.opens, decodeText_stringToBytes]

/-- Hexadecimal is first read as base64. When that opens at all it opens to the plaintext, and
when it does not the text is read as what it is. -/
theorem decrypt_hex (produced : Produced aes log cryptoKey plaintext payload)
    (once : ∀ data, (cryptoKey, payload.nonce, data) ∈ log → data = stringToBytes plaintext)
    {ciphertext nonce : String} (hex : HexText payload.ciphertext ciphertext)
    (text : payload.NonceText nonce) :
    decrypt aes log cryptoKey ciphertext nonce = .ok (unmarked plaintext) := by
  have even : ciphertext.toList.length % 2 = 0 := by
    rw [hex.length]
    omega
  obtain ⟨misread, read⟩ := Option.isSome_iff_exists.mp hex.decodeBase64OrHex_isSome
  cases attempt : aes.decipher log cryptoKey payload.nonce misread with
  | some data =>
    obtain rfl := decipher_unique once attempt
    simp only [decrypt, produced.decode_nonce text, read, decryptRaw_service produced, attempt,
      decodeText_stringToBytes]
  | none =>
    simp only [decrypt, produced.decode_nonce text, read, decryptRaw_service produced, attempt,
      hex.trimmed, hex.isHex, even, and_self, ↓reduceIte, String.ofList_toList, hex.decoded,
      Option.map_some, produced.opens, decodeText_stringToBytes]

end EncryptionService

end Decryption

variable (aes)

/-- Decryption undoes encryption in every form, and no form is taken for another. The service
reads a ciphertext in hexadecimal under a nonce that sealed one text only. -/
structure RoundTrips (log : Sealed κ) (plaintext : String) (key : KeyInput κ)
    (payload : EncryptedPayload) : Prop where
  parsed : ∀ input nonceParam, payload.Presents input nonceParam →
    parseDecryptionInput input nonceParam = .ok (payload.ciphertext, payload.nonce)
  decrypted : ∀ input nonceParam, payload.Presents input nonceParam →
    decrypt aes log input key nonceParam = .ok plaintext
  served : ∀ cryptoKey, resolveKey aes key = .ok cryptoKey → ∀ nonce, payload.NonceText nonce →
    EncryptionService.decrypt aes log cryptoKey payload.ciphertextB64 nonce = .ok plaintext
  servedHex : ∀ cryptoKey, resolveKey aes key = .ok cryptoKey →
    (∀ data, (cryptoKey, payload.nonce, data) ∈ log → data = stringToBytes plaintext) →
      ∀ ciphertext nonce, HexText payload.ciphertext ciphertext → payload.NonceText nonce →
        EncryptionService.decrypt aes log cryptoKey ciphertext nonce = .ok plaintext

/-- A payload comes back as its plaintext exactly when that does not start with a byte order
mark, whatever else has been sealed since. -/
theorem decryption_undoes_iff (before : Sealed κ) (plaintext : String) (key : KeyInput κ)
    (customNonce : Option Bytes) (generated : Nonce) (payload : EncryptedPayload)
    (done : (encrypt aes before (.text plaintext) key customNonce generated).1 = .ok payload)
    (later : Sealed κ)
    (kept : (encrypt aes before (.text plaintext) key customNonce generated).2 ⊆ later) :
    RoundTrips aes later plaintext key payload ↔ plaintext.toList.head? ≠ some '\uFEFF' := by
  obtain ⟨cryptoKey, resolved, produced⟩ := encrypt_produced done
  replace produced := produced.later kept
  rw [← unmarked_eq_self_iff]
  constructor
  · intro trips
    have presents : payload.Presents (.payload (.bytes payload.ciphertext) (.bytes payload.nonce))
        none := .object none (Or.inl rfl) (Or.inl rfl)
    have returned := trips.decrypted _ _ presents
    rw [produced.decrypt resolved presents] at returned
    exact Except.ok.inj returned
  · intro unchanged
    have same {other : κ} (resolved' : resolveKey aes key = .ok other) : other = cryptoKey :=
      Except.ok.inj (resolved'.symm.trans resolved)
    constructor
    · exact fun input nonceParam presents => produced.parse presents
    · intro input nonceParam presents
      rw [produced.decrypt resolved presents, unchanged]
    · intro other resolved' nonce text
      obtain rfl := same resolved'
      rw [EncryptionService.decrypt_base64 produced text, unchanged]
    · intro other resolved' once ciphertext nonce hex text
      obtain rfl := same resolved'
      rw [EncryptionService.decrypt_hex produced once hex text, unchanged]

section Examples

/-- A cipher that adds the key to every byte. -/
def shiftCipher : AesGcm UInt8 where
  deriveKey _ := 1
  importRawKey _ := 2
  encipher key _ data := data.map (· + key) ++ List.replicate tagLengthBytes key
  length_encipher key _ data := by simp
  encipher_injective key _ data other same := by
    have shifted := List.append_cancel_right same
    exact List.map_injective_iff.mpr (fun _ _ => add_right_cancel) shifted

def zeroNonce : Nonce := ⟨List.replicate nonceLengthBytes 0, rfl⟩

def passphrase : KeyInput UInt8 := .material (.passphrase "master")

/-- In hexadecimal too. -/
theorem decryption_undoes_plain : ∃ payload,
    (encrypt shiftCipher [] (.text "sk-1") passphrase none zeroNonce).1 = .ok payload ∧
      RoundTrips shiftCipher
        (encrypt shiftCipher [] (.text "sk-1") passphrase none zeroNonce).2 "sk-1" passphrase
        payload ∧
      EncryptionService.decrypt shiftCipher
        (encrypt shiftCipher [] (.text "sk-1") passphrase none zeroNonce).2 1
        (bytesToHex payload.ciphertext) payload.nonceB64 = .ok "sk-1" := by
  obtain ⟨payload, done, ciphertext⟩ : ∃ payload,
      (encrypt shiftCipher [] (.text "sk-1") passphrase none zeroNonce).1 = .ok payload ∧
        payload.ciphertext ≠ [] := ⟨_, rfl, by decide⟩
  have trips := (decryption_undoes_iff shiftCipher [] "sk-1" passphrase none zeroNonce payload done
    _ (List.Subset.refl _)).mpr (by decide)
  refine ⟨payload, done, trips, ?_⟩
  refine trips.servedHex 1 rfl ?_ _ _ (hexText_bytesToHex ciphertext) (Or.inl rfl)
  intro data sealed
  have only := List.mem_singleton.mp sealed
  exact (Prod.mk.inj (Prod.mk.inj only).2).2

/-- The result of an encryption, decrypted with the same key: the mark is gone. -/
theorem marked_plaintext_shortened : ∃ payload,
    (encrypt shiftCipher [] (.text "\uFEFFsk-1") passphrase none zeroNonce).1 = .ok payload ∧
      decrypt shiftCipher
        (encrypt shiftCipher [] (.text "\uFEFFsk-1") passphrase none zeroNonce).2
        (.payload (.bytes payload.ciphertext) (.bytes payload.nonce)) passphrase none =
          .ok "sk-1" :=
  ⟨_, rfl, by decide⟩

end Examples

end KeyCollective.Aes
