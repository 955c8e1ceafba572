import BridgeClient.Bytes
import BridgeClient.Error

set_option autoImplicit false

/-!
Lengths in one to three bytes: seven bits each, the least significant group first, and a high bit on
every byte that has a successor.
-/
namespace BridgeClient.CompactLength

/-- The groups of a number. -/
def groups (n : Nat) : Bytes :=
  if n < 128 then [UInt8.ofNat n] else UInt8.ofNat (n % 128 + 128) :: groups (n / 128)
termination_by n
decreasing_by omega

def encode (length : UInt16) : Bytes := groups length.toNat

/-- The bytes that the groups of a length take. -/
def size (n : Nat) : Nat := if n < 128 then 1 else if n < 16384 then 2 else 3

/-- A length, if it fits sixteen bits. -/
def check (n : Nat) : Except BridgeError UInt16 :=
  if n < 65536 then .ok (UInt16.ofNat n)
  else .error (.serialization s!"length {n} exceeds compact-u16")

/-- A length with its check. -/
def encodeChecked (n : Nat) : Except BridgeError Bytes := (check n).map encode

/-- Reads at most so many groups: their number, and how many there were. The last group ends the
number whatever its high bit. -/
def scan : Nat → Bytes → Option (Nat × Nat)
  | _, [] => none
  | 0, _ :: _ => none
  | left + 1, b :: rest =>
      if b.toNat < 128 || left = 0 then some (b.toNat % 128, 1)
      else (scan left rest).map fun (value, used) => (b.toNat % 128 + 128 * value, used + 1)

/-- The length at the front of a byte string, and the bytes it takes. -/
def decode (bytes : Bytes) : Except BridgeError (UInt16 × Nat) :=
  match scan 3 bytes with
  | none => .error (.serialization "unexpected end of data while decoding compact-u16")
  | some (value, used) =>
      if value < 65536 then .ok (UInt16.ofNat value, used)
      else .error (.serialization "compact-u16 value overflow")

end BridgeClient.CompactLength
