import BridgeClient.Bytes

set_option autoImplicit false

/-!
JSON as it is written: members keep their order and may repeat, strings remember their bytes and their
escapes, numbers keep their digits. What a reader makes of such a value is decided by the reader.
-/
namespace BridgeClient

namespace Json

/-- A piece of a string between its quotes: a byte, a short escape, or a `\u` code unit. -/
inductive Piece where
  | plain (byte : UInt8)
  | escape (c : Char)
  | unit (code : Nat)
deriving DecidableEq

/-- A string as it was written. -/
structure Text where
  pieces : List Piece
deriving DecidableEq

/-- The exponent of a number: the letter before it, its sign if there is one, and its digits. -/
structure Exponent where
  letter : Char
  sign : Option Char
  digits : List Nat
deriving DecidableEq

/-- A number as it was written: no fraction digits means no point. -/
structure Number where
  negative : Bool
  whole : Nat
  fraction : List Nat
  exponent : Option Exponent
deriving DecidableEq

end Json

inductive Json where
  | null
  | bool (value : Bool)
  | number (value : Json.Number)
  | string (value : Json.Text)
  | array (elements : List Json)
  | object (members : List (Json.Text × Json))

namespace Json

namespace Text

/-- A text written without escapes. -/
def ofString (text : String) : Text := ⟨(Bytes.ofText text).map Piece.plain⟩

/-- Whether the text was written without escapes as this key. -/
def isKey (text : Text) (key : String) : Bool := text = ofString key

/-- The bytes meant. Two code units of a surrogate pair make one character, and a half without its
partner makes none. -/
def decodePieces : List Piece → Option Bytes
  | [] => some []
  | .plain byte :: rest => (decodePieces rest).map (byte :: ·)
  | .escape c :: rest => (decodePieces rest).map (String.utf8EncodeChar c ++ ·)
  | .unit high :: .unit low :: rest =>
      if 0xD800 ≤ high && high < 0xDC00 then
        if 0xDC00 ≤ low && low < 0xE000 then
          let code := 0x10000 + (high - 0xD800) * 0x400 + (low - 0xDC00)
          (decodePieces rest).map (String.utf8EncodeChar (Char.ofNat code) ++ ·)
        else none
      else if 0xDC00 ≤ high && high < 0xE000 then none
      else (decodePieces (.unit low :: rest)).map (String.utf8EncodeChar (Char.ofNat high) ++ ·)
  | .unit code :: rest =>
      if 0xD800 ≤ code && code < 0xE000 then none
      else (decodePieces rest).map (String.utf8EncodeChar (Char.ofNat code) ++ ·)

/-- The text meant, if its bytes are UTF-8. -/
def decode? (text : Text) : Option String := (decodePieces text.pieces).bind Bytes.toText?

/-- Whether the text is UTF-8 as it was written, whatever its escapes mean. -/
def isEncoded (text : Text) : Bool :=
  -- Each escape is ASCII, so one backslash may stand for it.
  (Bytes.toText? (text.pieces.map fun
    | .plain byte => byte
    | _ => 0x5C)).isSome

end Text

namespace Number

def ofNat (n : Nat) : Number := ⟨false, n, [], none⟩

def ofInt (n : Int) : Number := ⟨decide (n < 0), n.natAbs, [], none⟩

/-- The whole number written, if neither point nor exponent was used and it is no negative zero. -/
def toInt? (n : Number) : Option Int :=
  if n.fraction = [] && n.exponent = none then
    if n.negative then (if n.whole = 0 then none else some (-(n.whole : Int)))
    else some n.whole
  else none

end Number

def ofString (text : String) : Json := .string (Text.ofString text)

def ofNat (n : Nat) : Json := .number (Number.ofNat n)

def ofInt (n : Int) : Json := .number (Number.ofInt n)

/-- An object whose keys are written without escapes. -/
def ofMembers (members : List (String × Json)) : Json :=
  .object (members.map fun member => (Text.ofString member.1, member.2))

def toText? : Json → Option Text
  | string text => some text
  | _ => none

/-- The characters of a string value. -/
def toString? (value : Json) : Option String := value.toText?.bind Text.decode?

mutual

/-- Whether all texts inside are UTF-8 as they were written. -/
def isEncoded : Json → Bool
  | string text => text.isEncoded
  | array elements => areEncoded elements
  | object members => membersEncoded members
  | _ => true

def areEncoded : List Json → Bool
  | [] => true
  | element :: rest => element.isEncoded && areEncoded rest

def membersEncoded : List (Text × Json) → Bool
  | [] => true
  | (name, value) :: rest => name.isEncoded && value.isEncoded && membersEncoded rest

end

end Json
end BridgeClient
