import BridgeClient.Bytes

set_option autoImplicit false

/-!
Percent-encoding. Which bytes are written as `%` and two hex digits depends on the part of a URL they
stand in; bytes above ASCII always are.
-/
namespace BridgeClient.Percent

/-- Bytes that one part of a URL cannot hold as they are. -/
abbrev EncodeSet := UInt8 → Bool

def isControl (b : UInt8) : Bool := b < 0x20 || 0x7f ≤ b

def isAnyOf (chars : String) (b : UInt8) : Bool := (Bytes.ofAscii chars).contains b

def controls : EncodeSet := isControl

def fragmentSet : EncodeSet := fun b => isControl b || isAnyOf " \"<>`" b

def pathSet : EncodeSet := fun b => fragmentSet b || isAnyOf "#?\x7b\x7d" b

def userinfoSet : EncodeSet := fun b => pathSet b || isAnyOf "/:;=@[\\]^|" b

def querySet : EncodeSet := fun b => isControl b || isAnyOf " \"#<>" b

/-- The set for queries of the schemes of the web. -/
def webQuerySet : EncodeSet := fun b => querySet b || isAnyOf "'" b

/-- One hex digit in upper case. -/
def upperDigit (n : Nat) : Char := if n < 10 then Char.ofNat (48 + n) else Char.ofNat (55 + n)

def encodeByte (b : UInt8) : List Char :=
  ['%', upperDigit (b.toNat / 16), upperDigit (b.toNat % 16)]

/-- The bytes as ASCII text, those of the set encoded. -/
def encodeBytes (set : EncodeSet) (bytes : Bytes) : List Char :=
  bytes.flatMap fun b => if set b then encodeByte b else [Char.ofNat b.toNat]

/-- The UTF-8 bytes of a text, those of the set encoded. -/
def encode (set : EncodeSet) (cs : List Char) : List Char :=
  encodeBytes set (Bytes.ofText (String.ofList cs))

def hexValue? (b : UInt8) : Option Nat :=
  if 48 ≤ b && b ≤ 57 then some (b.toNat - 48)
  else if 65 ≤ b && b ≤ 70 then some (b.toNat - 55)
  else if 97 ≤ b && b ≤ 102 then some (b.toNat - 87)
  else none

/-- The bytes meant. A `%` without two hex digits stands for itself. -/
def decode : Bytes → Bytes
  | [] => []
  | b :: high :: low :: rest =>
      if b = 37 then
        match hexValue? high, hexValue? low with
        | some h, some l => UInt8.ofNat (h * 16 + l) :: decode rest
        | _, _ => b :: decode (high :: low :: rest)
      else b :: decode (high :: low :: rest)
  | b :: rest => b :: decode rest

end BridgeClient.Percent
