import KeyCollective.Selector.Triage

/-!
# Encrypted keys

The pool's stored form of a provider key. A key posted to the pool may leave its
tenant out; the pool fills in its own.
-/

namespace KeyCollective

structure EncryptedKey where
  id : String
  tenantId : Option String
  provider : String
  ciphertext : String
  nonce : String
  priority : Option Int := none
  rpmLimit : Option Int := none
  rpdLimit : Option Int := none
  status : Option String := none
  circuitOpenUntil : Option Int := none
deriving DecidableEq, Repr

instance : SelectableKey EncryptedKey where
  id := EncryptedKey.id
  provider := EncryptedKey.provider
  priority := EncryptedKey.priority
  status := EncryptedKey.status
  rpmLimit := EncryptedKey.rpmLimit
  rpdLimit := EncryptedKey.rpdLimit
  circuitOpenUntil := EncryptedKey.circuitOpenUntil

def isEncryptedKey (key : EncryptedKey) : Bool :=
  !isBlank key.id && !isBlank key.provider && !isBlank key.ciphertext && !isBlank key.nonce

end KeyCollective
