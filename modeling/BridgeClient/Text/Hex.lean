import BridgeClient.Bytes

set_option autoImplicit false

/-! Bytes as pairs of lower case hex digits. -/
namespace BridgeClient.Hex

def digit (n : Nat) : Char := Nat.digitChar n

def encodeByte (b : UInt8) : List Char := [digit (b.toNat / 16), digit (b.toNat % 16)]

def encode (bytes : Bytes) : String := String.ofList (bytes.flatMap encodeByte)

def value? (c : Char) : Option Nat :=
  if '0' ≤ c && c ≤ '9' then some (c.toNat - '0'.toNat)
  else if 'a' ≤ c && c ≤ 'f' then some (c.toNat - 'a'.toNat + 10)
  else if 'A' ≤ c && c ≤ 'F' then some (c.toNat - 'A'.toNat + 10)
  else none

def decodeChars : List Char → Option Bytes
  | [] => some []
  | [_] => none
  | a :: b :: rest => do
      let high ← value? a
      let low ← value? b
      let rest ← decodeChars rest
      pure (UInt8.ofNat (high * 16 + low) :: rest)

def decode? (text : String) : Option Bytes := decodeChars text.toList

end BridgeClient.Hex
