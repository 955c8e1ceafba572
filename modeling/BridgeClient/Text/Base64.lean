import BridgeClient.Bytes

set_option autoImplicit false

/-!
Base64 with padding. Every byte string has one text: the last group is filled up with `=`, and the bits
that no byte needs are zero. Reading names the first thing that is wrong.
-/
namespace BridgeClient.Base64

/-- Sixty-four symbols, by the value of six bits. -/
def alphabet : Bytes :=
  "ABCDEFGHIJKLMNOPQRSTUVWXYZabcdefghijklmnopqrstuvwxyz0123456789+/".toList.map fun c =>
    UInt8.ofNat c.toNat

def symbol (value : Nat) : UInt8 := alphabet.getD value 0

def valueOf? (symbol : UInt8) : Option Nat := alphabet.idxOf? symbol

/-- The sign that fills up the last group: `=`. -/
def padding : UInt8 := 61

/-- Three bytes make four symbols. -/
def symbols : Bytes → Bytes
  | [] => []
  | [a] =>
      let n := a.toNat * 16
      [symbol (n / 64), symbol (n % 64), padding, padding]
  | [a, b] =>
      let n := (a.toNat * 256 + b.toNat) * 4
      [symbol (n / 4096), symbol (n / 64 % 64), symbol (n % 64), padding]
  | a :: b :: c :: rest =>
      let n := (a.toNat * 256 + b.toNat) * 256 + c.toNat
      symbol (n / 262144) :: symbol (n / 4096 % 64) :: symbol (n / 64 % 64) :: symbol (n % 64)
        :: symbols rest

def encode (bytes : Bytes) : String :=
  String.ofList ((symbols bytes).map fun symbol => Char.ofNat symbol.toNat)

/-- Why a text is no base64. Places count bytes. -/
inductive DecodeError where
  | invalidSymbol (symbol : UInt8) (offset : Nat)
  /-- The last symbol has bits set that no byte needs. -/
  | invalidLastSymbol (symbol : UInt8) (offset : Nat)
  | invalidLength (length : Nat)
  | invalidPadding
deriving DecidableEq

namespace DecodeError

def message : DecodeError → String
  | invalidSymbol symbol offset => s!"Invalid symbol {symbol}, offset {offset}."
  | invalidLastSymbol symbol offset => s!"Invalid last symbol {symbol}, offset {offset}."
  | invalidLength length => s!"Invalid input length: {length}"
  | invalidPadding => "Invalid padding"

end DecodeError

/-- The values of symbols of which the first stands at `offset`. -/
def values (offset : Nat) : Bytes → Except DecodeError (List Nat)
  | [] => .ok []
  | symbol :: rest =>
      match valueOf? symbol with
      | none => .error (.invalidSymbol symbol offset)
      | some value => (values (offset + 1) rest).map (value :: ·)

/-- The bytes of a last group without its padding, and whether all other bits are zero. -/
def lastBytes : List Nat → Bytes × Bool
  | [a, b] =>
      let n := a * 64 + b
      ([UInt8.ofNat (n / 16)], n % 16 = 0)
  | [a, b, c] =>
      let n := (a * 64 + b) * 64 + c
      ([UInt8.ofNat (n / 1024), UInt8.ofNat (n / 4)], n % 4 = 0)
  | [a, b, c, d] =>
      let n := ((a * 64 + b) * 64 + c) * 64 + d
      ([UInt8.ofNat (n / 65536), UInt8.ofNat (n / 256), UInt8.ofNat n], true)
  | _ => ([], true)

/-- A last group of one to four symbols. Padding takes the place of the last one or two. -/
def decodeLast (offset : Nat) (group : Bytes) : Except DecodeError Bytes := do
  let front := group.takeWhile (· ≠ padding)
  let back := group.dropWhile (· ≠ padding)
  let values ← values offset front
  let length := front.length
  if !back.isEmpty && (length < 2 || back.any (· ≠ padding)) then
    throw (.invalidSymbol padding (offset + length))
  if length < 2 then throw (.invalidLength (offset + length))
  if group.length ≠ 4 then throw .invalidPadding
  match lastBytes values with
  | (bytes, true) => return bytes
  | (_, false) =>
      throw (.invalidLastSymbol (front.getLast?.getD padding) (offset + length - 1))

/-- Groups of four symbols of which the first stands at `offset`; only the last may be padded. -/
def decodeGroups (offset : Nat) : Bytes → Except DecodeError Bytes
  | a :: b :: c :: d :: e :: rest => do
      let values ← values offset [a, b, c, d]
      let others ← decodeGroups (offset + 4) (e :: rest)
      return (lastBytes values).1 ++ others
  | [] => .ok []
  | group => decodeLast offset group

/-- A single symbol at the end is looked at before anything else. -/
def decodeSymbols (symbols : Bytes) : Except DecodeError Bytes :=
  match symbols.getLast? with
  | some last =>
      if symbols.length % 4 = 1 && last ≠ padding && (valueOf? last).isNone then
        .error (.invalidSymbol last (symbols.length - 1))
      else decodeGroups 0 symbols
  | none => .ok []

def decode (text : String) : Except DecodeError Bytes := decodeSymbols text.toUTF8.toList

end BridgeClient.Base64
