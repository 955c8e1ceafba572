import BridgeClient.Crypto.Edwards
import BridgeClient.Crypto.Sha2
import BridgeClient.Ledger.Key

set_option autoImplicit false

/-!
Addresses derived from seeds, for which no secret key exists: the hash of the seeds, a bump, the
program and a marker, where that hash is no point of the curve. The hash and the curve test are
parameters of the derivation.
-/
namespace BridgeClient

/-- The hash of a derivation, and the test for points of the curve. -/
structure Derivation where
  digest : Bytes → FixedBytes 32
  isOnCurve : FixedBytes 32 → Bool

namespace Derivation

/-- The ledger's derivation. -/
def ledger : Derivation := ⟨sha256, Edwards.isOnCurve⟩

def maxSeedLength : Nat := 32

/-- What stands at the end of every hashed string. -/
def marker : Bytes := Bytes.ofAscii "ProgramDerivedAddress"

/-- The string whose hash becomes the address. -/
def preimage (seeds : List Bytes) (bump : Bytes) (program : Key) : Bytes :=
  seeds.flatten ++ (bump ++ (program.bytes.toList ++ marker))

/-- The first seed that is too long, by its length. -/
def longSeed? (seeds : List Bytes) : Option Nat :=
  (seeds.find? fun seed => maxSeedLength < seed.length).map List.length

/-- The address for seeds and a bump. -/
def create (scheme : Derivation) (seeds : List Bytes) (bump : Bytes) (program : Key) :
    Except BridgeError Key :=
  match longSeed? seeds with
  | some length => .error (.configuration s!"PDA seed of {length} bytes exceeds {maxSeedLength}")
  | none =>
      let address := scheme.digest (preimage seeds bump program)
      if scheme.isOnCurve address then
        .error (.invalidAddress "derived address lies on the ed25519 curve")
      else .ok ⟨address⟩

/-- Tries the bumps below `count`, the largest first. -/
def search (scheme : Derivation) (seeds : List Bytes) (program : Key) :
    Nat → Except BridgeError (Key × UInt8)
  | 0 => .error (.invalidAddress "could not find valid PDA bump seed")
  | count + 1 =>
      match scheme.create seeds [UInt8.ofNat count] program with
      | .ok address => .ok (address, UInt8.ofNat count)
      | .error (.invalidAddress _) => search scheme seeds program count
      | .error e => .error e

/-- The address with the largest bump off the curve, and that bump. -/
def find (scheme : Derivation) (seeds : List Bytes) (program : Key) :
    Except BridgeError (Key × UInt8) :=
  scheme.search seeds program 256

end Derivation
end BridgeClient
