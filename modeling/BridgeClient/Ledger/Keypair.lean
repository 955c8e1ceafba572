import BridgeClient.Crypto.Ed25519
import BridgeClient.Ledger.Key

set_option autoImplicit false

/-!
Who can sign. Transactions are assembled for any kind of signing key; the ledger's own kind is an
Ed25519 keypair.
-/
namespace BridgeClient

/-- A kind of secret that has a public key and signs byte strings. -/
class SigningKey (K : Type) where
  publicKey : K → Key
  sign : K → Bytes → Signature

/-- An Ed25519 keypair, with its public half computed once. -/
structure Keypair where
  seed : FixedBytes 32
  publicKey : Key
  publicKey_eq : publicKey = ⟨Ed25519.publicKey seed⟩

namespace Keypair

def ofSeed (seed : FixedBytes 32) : Keypair := ⟨seed, ⟨Ed25519.publicKey seed⟩, rfl⟩

def sign (keypair : Keypair) (message : Bytes) : Signature :=
  ⟨Ed25519.sign keypair.seed keypair.publicKey.bytes message⟩

instance : SigningKey Keypair := ⟨publicKey, sign⟩

/-- From the 64 bytes of a key file: the seed, then the public key, which must belong to it. -/
def ofBytes (bytes : Bytes) : Except BridgeError Keypair :=
  match FixedBytes.ofList? 64 bytes with
  | none =>
      let length := bytes.length
      .error (.signing s!"keypair must be 64 bytes, got {length}")
  | some whole =>
      let keypair := ofSeed ⟨whole.toList.take 32, by simp⟩
      if keypair.publicKey.bytes.toList = whole.toList.drop 32 then .ok keypair
      else .error (.signing "public half does not match secret half")

/-- From the base58 text of those 64 bytes. -/
def ofBase58 (text : String) : Except BridgeError Keypair :=
  match Base58.decode text with
  | .error e => .error (.signing ("base58 decode failed: " ++ e.message))
  | .ok bytes => ofBytes bytes

/-- The public half only. -/
def describe (keypair : Keypair) : String :=
  "Keypair \x7b pubkey: " ++ keypair.publicKey.describe ++ ", .. \x7d"

end Keypair
end BridgeClient
