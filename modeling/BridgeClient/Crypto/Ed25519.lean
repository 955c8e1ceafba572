import BridgeClient.Crypto.Edwards
import BridgeClient.Crypto.Sha2

set_option autoImplicit false

/-! Ed25519 signatures from a 32-byte seed. -/
namespace BridgeClient.Ed25519

open Edwards

/-- The number with the low three bits and the top bit cleared and the bit below the top set. -/
def clamp (n : Nat) : Nat := n % Nat.pow 2 254 / 8 * 8 + Nat.pow 2 254

/-- The secret scalar of a seed and the bytes that make its nonces. -/
structure Expanded where
  scalar : Nat
  nonceKey : Bytes

def expand (seed : FixedBytes 32) : Expanded :=
  let hash := (sha512 seed.toList).toList
  ⟨clamp (Bytes.ofLittleEndian (hash.take 32)), hash.drop 32⟩

def publicKey (seed : FixedBytes 32) : FixedBytes 32 :=
  (Point.base.smul (expand seed).scalar).encode

/-- A hash read as a scalar. -/
def hashScalar (message : Bytes) : Nat :=
  Bytes.ofLittleEndian (sha512 message).toList % groupOrder

/-- The encoded nonce point and the response scalar. -/
def sign (seed publicKey : FixedBytes 32) (message : Bytes) : FixedBytes 64 :=
  let secret := expand seed
  let nonce := hashScalar (secret.nonceKey ++ message)
  let point := (Point.base.smul nonce).encode
  let challenge := hashScalar (point.toList ++ publicKey.toList ++ message)
  let response := (nonce + challenge * secret.scalar) % groupOrder
  point.append (⟨Bytes.littleEndian 32 response, by simp⟩ : FixedBytes 32)

end BridgeClient.Ed25519
