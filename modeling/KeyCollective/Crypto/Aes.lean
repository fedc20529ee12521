import KeyCollective.Crypto.Encoding
import KeyCollective.Storage.KeyRepository

/-!
# AES-GCM

`encrypt` seals a text under a nonce of twelve bytes and returns it in several forms; `decrypt`
tells from the shape of its arguments which form it is given. The cipher of the runtime is
ideal: it opens what was sealed and nothing else, so that what it opens depends on what has
been sealed so far.
-/

namespace KeyCollective.Aes

def nonceLengthBytes : Nat := 12

def tagLengthBytes : Nat := 16

def encryptionKeyLengthBytes : Nat := 32

/-- The runtime's AES-GCM and its keys. The tag follows the text. -/
structure AesGcm (κ : Type) where
  deriveKey : KeyMaterial → κ
  importRawKey : List (Fin 256) → κ
  encipher : κ → Bytes → Bytes → Bytes
  length_encipher : ∀ key nonce data, (encipher key nonce data).length = data.length + tagLengthBytes
  encipher_injective : ∀ key nonce, Function.Injective (encipher key nonce)

/-- What has been sealed: key, nonce and plaintext. -/
abbrev Sealed (κ : Type) := List (κ × Bytes × Bytes)

/-- What `resolveKey` refuses. -/
inductive KeyFailure where
  | emptySecret
  | emptyKeyBytes
deriving DecidableEq, Repr

inductive EncryptionFailure where
  | key (failure : KeyFailure)
  | nonceLength (bytes : Nat)
deriving DecidableEq, Repr

inductive DecryptionFailure where
  | key (failure : KeyFailure)
  | base64
  | tooShort (bytes : Nat)
  | nonceLength (bytes : Nat)
  | unauthentic
deriving DecidableEq, Repr

def KeyFailure.message : KeyFailure → String
  | emptySecret => "Master key secret cannot be empty"
  | emptyKeyBytes => "Key bytes cannot be empty"

def EncryptionFailure.message : EncryptionFailure → String
  | key failure => failure.message
  | nonceLength bytes => s!"Invalid nonce length: expected {nonceLengthBytes} bytes, got {bytes}"

/-- `detail` is the message of the runtime's own error. -/
def DecryptionFailure.message (detail : String) : DecryptionFailure → String
  | key failure => failure.message
  | base64 => "Failed to decode base64 data: " ++ detail
  | tooShort bytes =>
    "Combined encrypted payload too short: " ++
      s!"expected at least {nonceLengthBytes + tagLengthBytes} bytes, got {bytes}"
  | nonceLength bytes => s!"Invalid nonce length: expected {nonceLengthBytes} bytes, got {bytes}"
  | unauthentic => "AES-GCM decryption failed: " ++ detail

/-- `string | Uint8Array`. -/
inductive Binary where
  | text (s : String)
  | bytes (b : Bytes)
deriving DecidableEq, Repr

structure EncryptedPayload where
  ciphertext : Bytes
  nonce : Bytes
  combined : Bytes
  ciphertextB64 : String
  nonceB64 : String
  combinedB64 : String
deriving DecidableEq, Repr

inductive DecryptionInput where
  | binary (input : Binary)
  /-- An object with a `ciphertext` and a `nonce`. -/
  | payload (ciphertext nonce : Binary)
deriving DecidableEq, Repr

/-- What `generateNonce` returns. -/
structure Nonce where
  bytes : Bytes
  length : bytes.length = nonceLengthBytes

section

variable {κ : Type} (aes : AesGcm κ)

def resolveKey : KeyInput κ → Except KeyFailure κ
  | .material (.passphrase text) =>
    if text = "" then .error .emptySecret else .ok (aes.deriveKey (.passphrase text))
  | .material (.bytes bytes) =>
    if bytes = [] then .error .emptyKeyBytes
    else if bytes.length = encryptionKeyLengthBytes then .ok (aes.importRawKey bytes)
    else .ok (aes.deriveKey (.bytes bytes))
  | .cryptoKey key => .ok key

def encrypt (log : Sealed κ) (plaintext : Binary) (key : KeyInput κ) (customNonce : Option Bytes)
    (generated : Nonce) : Except EncryptionFailure EncryptedPayload × Sealed κ :=
  let nonce := customNonce.getD generated.bytes
  if nonce.length ≠ nonceLengthBytes then (.error (.nonceLength nonce.length), log)
  else match resolveKey aes key with
  | .error failure => (.error (.key failure), log)
  | .ok cryptoKey =>
    let data := match plaintext with
      | .text s => stringToBytes s
      | .bytes b => b
    let ciphertext := aes.encipher cryptoKey nonce data
    let combined := nonce ++ ciphertext
    (.ok
      { ciphertext, nonce, combined
        ciphertextB64 := uint8ArrayToBase64 ciphertext
        nonceB64 := uint8ArrayToBase64 nonce
        combinedB64 := uint8ArrayToBase64 combined }, (cryptoKey, nonce, data) :: log)

def Binary.toBytes : Binary → Except DecryptionFailure Bytes
  | .text s => match base64ToUint8Array s with
    | some b => .ok b
    | none => .error .base64
  | .bytes b => .ok b

def parseDecryptionInput (input : DecryptionInput) (nonceParam : Option Binary) :
    Except DecryptionFailure (Bytes × Bytes) :=
  match input, nonceParam with
  | .payload rawCiphertext rawNonce, _ => do
    let ciphertext ← rawCiphertext.toBytes
    let nonce ← rawNonce.toBytes
    pure (ciphertext, nonce)
  | .binary input, some nonceParam => do
    let ciphertext ← input.toBytes
    let nonce ← nonceParam.toBytes
    pure (ciphertext, nonce)
  | .binary input, none => do
    let combined ← input.toBytes
    if combined.length < nonceLengthBytes + tagLengthBytes then
      throw (.tooShort combined.length)
    pure (combined.drop nonceLengthBytes, combined.take nonceLengthBytes)

variable [DecidableEq κ]

/-- `crypto.subtle.decrypt`. None is its error. -/
def AesGcm.decipher (log : Sealed κ) (key : κ) (nonce ciphertext : Bytes) : Option Bytes :=
  (log.find? fun sealed => sealed.1 = key ∧ sealed.2.1 = nonce ∧
    aes.encipher key nonce sealed.2.2 = ciphertext).map fun sealed => sealed.2.2

def decryptRaw (log : Sealed κ) (input : DecryptionInput) (key : KeyInput κ)
    (nonceParam : Option Binary) : Except DecryptionFailure Bytes :=
  match resolveKey aes key with
  | .error failure => .error (.key failure)
  | .ok cryptoKey => do
    let (ciphertext, nonce) ← parseDecryptionInput input nonceParam
    if nonce.length ≠ nonceLengthBytes then throw (.nonceLength nonce.length)
    match aes.decipher log cryptoKey nonce ciphertext with
    | some data => pure data
    | none => throw .unauthentic

def decrypt (log : Sealed κ) (input : DecryptionInput) (key : KeyInput κ)
    (nonceParam : Option Binary) : Except DecryptionFailure String :=
  (decryptRaw aes log input key nonceParam).map decodeText

namespace EncryptionService

inductive Failure where
  | decryption (failure : DecryptionFailure)
  | failed
deriving DecidableEq, Repr

def Failure.message (detail : String) : Failure → String
  | decryption failure => failure.message detail
  | failed => "Decryption failed: invalid ciphertext, nonce, or key"

omit [DecidableEq κ] in
/-- The ciphertext and the nonce, in base64. -/
def encrypt (log : Sealed κ) (encryptionKey : κ) (plaintext : String) (generated : Nonce) :
    Except EncryptionFailure (String × String) × Sealed κ :=
  let (result, log) := Aes.encrypt aes log (.text plaintext) (.cryptoKey encryptionKey)
    (some generated.bytes) generated
  (result.map fun payload => (payload.ciphertextB64, payload.nonceB64), log)

/-- What does not open is read as hexadecimal, when it can be. -/
def decrypt (log : Sealed κ) (encryptionKey : κ) (ciphertext nonce : String) :
    Except Failure String :=
  match decodeBase64OrHex nonce (some nonceLengthBytes), decodeBase64OrHex ciphertext with
  | some nonceBytes, some ciphertextBytes =>
    let raw (ciphertextBytes : Bytes) := decryptRaw aes log (.binary (.bytes ciphertextBytes))
      (.cryptoKey encryptionKey) (some (.bytes nonceBytes))
    match raw ciphertextBytes with
    | .ok decryptedBytes => .ok (decodeText decryptedBytes)
    | .error _ =>
      let trimmed := trimChars ciphertext.toList
      if isHex trimmed ∧ trimmed.length % 2 = 0 then
        match (hexToUint8Array (String.ofList trimmed)).map raw with
        | some (.ok decryptedBytes) => .ok (decodeText decryptedBytes)
        | _ => .error .failed
      else .error .failed
  | _, _ => .error (.decryption .base64)

end EncryptionService

end

end KeyCollective.Aes
