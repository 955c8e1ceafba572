import BridgeClient.Error
import BridgeClient.Json.Typed
import BridgeClient.Text.Base58
import BridgeClient.Text.Quoted

set_option autoImplicit false

/-! Ledger addresses: 32 bytes, written in base58. -/
namespace BridgeClient

namespace Base58.DecodeError

def message : DecodeError → String
  | invalidCharacter c index =>
      "provided string contained invalid character " ++ Quoted.char c ++ s!" at byte {index}"
  | nonAscii index =>
      s!"provided string contained non-ascii character starting at byte {index}"

end Base58.DecodeError

/-- An account address. -/
structure Key where
  bytes : FixedBytes 32
deriving DecidableEq

namespace Key

def toBase58 (key : Key) : String := Base58.encode key.bytes.toList

instance : ToJson Key := ⟨fun key => toJson key.toBase58⟩

/-- The key a text stands for: base58 of exactly 32 bytes. -/
def parse (text : String) : Except BridgeError Key :=
  match Base58.decode text with
  | .error e => .error (.invalidAddress (s!"base58 decode failed for {text}: " ++ e.message))
  | .ok bytes =>
      match FixedBytes.ofList? 32 bytes with
      | some key => .ok ⟨key⟩
      | none =>
          let length := bytes.length
          .error (.invalidAddress s!"expected 32 bytes, got {length}")

/-- The key inside its type's name, for descriptions of larger values. -/
def describe (key : Key) : String := "Pubkey(" ++ key.toBase58 ++ ")"

/-- Keys are ordered by their bytes. -/
instance : Ord Key := ⟨fun a b => compare a.bytes b.bytes⟩

def le (a b : Key) : Bool := (compare a b).isLE

/-- The same byte 32 times. -/
def fill (byte : UInt8) : Key := ⟨FixedBytes.fill 32 byte⟩

/-- A key from the number that its bytes make, most significant first. -/
def ofNat (n : Nat) : Key := ⟨⟨Bytes.bigEndian 32 n, by simp⟩⟩

/-- Keys one after the other, without a length. -/
def pack (keys : List Key) : Bytes := keys.flatMap fun key => key.bytes.toList

end Key

/-- A transaction signature: 64 bytes, written in base58. -/
structure Signature where
  bytes : FixedBytes 64
deriving DecidableEq

namespace Signature

def toBase58 (signature : Signature) : String := Base58.encode signature.bytes.toList

instance : ToJson Signature := ⟨fun signature => toJson signature.toBase58⟩

def describe (signature : Signature) : String := "Signature(" ++ signature.toBase58 ++ ")"

end Signature
end BridgeClient
