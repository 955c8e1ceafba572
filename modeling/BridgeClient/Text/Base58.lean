import BridgeClient.Bytes
import BridgeClient.Number.Radix

set_option autoImplicit false

/-!
Base58 with the alphabet that leaves out `0`, `O`, `I` and `l`. Each zero byte in front is a `1`;
the rest is the shortest big-endian numeral, so every byte string has one text.
-/
namespace BridgeClient.Base58

def alphabet : List Char :=
  "123456789ABCDEFGHJKLMNPQRSTUVWXYZabcdefghijkmnopqrstuvwxyz".toList

def digitChar (d : Nat) : Char := alphabet.getD d '1'

def digitOf? (c : Char) : Option Nat := alphabet.idxOf? c

/-- The number behind the leading zero bytes, as digits, most significant first. -/
def numeral (bytes : Bytes) : List Nat := (Radix.digits 58 (Bytes.ofBigEndian bytes)).reverse

def encodeChars (bytes : Bytes) : List Char :=
  (bytes.takeWhile (· = 0)).map (fun _ => '1') ++ (numeral bytes).map digitChar

def encode (bytes : Bytes) : String := String.ofList (encodeChars bytes)

/-- Why a text is no base58: the first character that is no digit, by its place. -/
inductive DecodeError where
  | invalidCharacter (c : Char) (index : Nat)
  | nonAscii (index : Nat)
deriving DecidableEq

/-- The digits of a text whose first character stands at `index`. -/
def readDigits (index : Nat) : List Char → Except DecodeError (List Nat)
  | [] => .ok []
  | c :: rest =>
      if 128 ≤ c.toNat then .error (.nonAscii index)
      else
        match digitOf? c with
        | none => .error (.invalidCharacter c index)
        | some d => (readDigits (index + 1) rest).map (d :: ·)

/-- A zero byte for each leading zero digit, then the number without zeros in front. -/
def bytesOfDigits (digits : List Nat) : Bytes :=
  (digits.takeWhile (· = 0)).map (fun _ => 0)
    ++ ((Radix.digits 256 (Radix.ofDigits 58 digits.reverse)).map UInt8.ofNat).reverse

def decodeChars (cs : List Char) : Except DecodeError Bytes :=
  (readDigits 0 cs).map bytesOfDigits

def decode (text : String) : Except DecodeError Bytes := decodeChars text.toList

end BridgeClient.Base58
