import BridgeClient.Ledger.Key

set_option autoImplicit false

/-!
The binary form of instruction payloads: a byte for the variant, integers little endian, a length of
four bytes before a byte string, keys and arrays as they are. A payload is read whole: bytes that
are missing and bytes left over are both refused.
-/
namespace BridgeClient.Borsh

/-- Why bytes are no payload. -/
inductive Fault where
  | shortInput
  | trailingBytes
  | unknownVariant (tag : UInt8)
deriving DecidableEq

def Fault.message : Fault → String
  | shortInput => "Unexpected length of input"
  | trailingBytes => "Not all bytes read"
  | unknownVariant tag => "Unexpected variant tag: " ++ toString tag.toNat

/-- The same fault as an error of the client. -/
def Fault.toBridgeError (fault : Fault) : BridgeError := .serialization fault.message

/-- Takes a value off the front of a byte string. -/
abbrev Reader (α : Type) := Bytes → Except Fault (α × Bytes)

namespace Reader

def pure {α : Type} (value : α) : Reader α := fun bytes => .ok (value, bytes)

def fail {α : Type} (fault : Fault) : Reader α := fun _ => .error fault

/-- Reads one value, then what depends on it. -/
def bind {α β : Type} (first : Reader α) (next : α → Reader β) : Reader β := fun bytes =>
  match first bytes with
  | .ok (value, rest) => next value rest
  | .error fault => .error fault

instance : Monad Reader where
  pure := pure
  bind := bind

/-- Reads a whole byte string. -/
def whole {α : Type} (reader : Reader α) (bytes : Bytes) : Except Fault α :=
  match reader bytes with
  | .ok (value, []) => .ok value
  | .ok (_, _ :: _) => .error .trailingBytes
  | .error fault => .error fault

end Reader

def byte : Reader UInt8 := fun bytes =>
  match bytes with
  | b :: rest => .ok (b, rest)
  | [] => .error .shortInput

def fixed (n : Nat) : Reader (FixedBytes n) := fun bytes =>
  match FixedBytes.split? n bytes with
  | some result => .ok result
  | none => .error .shortInput

def key : Reader Key := do
  let bytes ← fixed 32
  return ⟨bytes⟩

def word64 : Reader UInt64 := do
  let bytes ← fixed 8
  return UInt64.ofNat (Bytes.ofLittleEndian bytes.toList)

/-- A length in four bytes, then so many bytes. -/
def byteString : Reader Bytes := do
  let length ← fixed 4
  let bytes ← fixed (Bytes.ofLittleEndian length.toList)
  return bytes.toList

def writeWord64 (value : UInt64) : Bytes := Bytes.littleEndian 8 value.toNat

def writeByteString (bytes : Bytes) : Bytes := Bytes.littleEndian 4 bytes.length ++ bytes

def writeKey (key : Key) : Bytes := key.bytes.toList

end BridgeClient.Borsh
