import BridgeClient.Json.Basic
import BridgeClient.Number.Radix

set_option autoImplicit false

/-! Writing JSON without blanks. Only quotes, backslashes and control characters are escaped. -/
namespace BridgeClient.Json

namespace Writer

/-- One hex digit in lower case. -/
def hexDigit (n : Nat) : Char := Nat.digitChar (n % 16)

/-- A character between quotes. -/
def escaped (c : Char) : List Char :=
  if c = '"' then ['\\', '"']
  else if c = '\\' then ['\\', '\\']
  else if c = '\n' then ['\\', 'n']
  else if c = '\r' then ['\\', 'r']
  else if c = '\t' then ['\\', 't']
  else if c = '\x08' then ['\\', 'b']
  else if c = '\x0c' then ['\\', 'f']
  else if c.toNat < 0x20 then ['\\', 'u', '0', '0', hexDigit (c.toNat / 16), hexDigit c.toNat]
  else [c]

def quoted (cs : List Char) : List Char := '"' :: (cs.flatMap escaped ++ ['"'])

/-- A text; one that stands for no characters is written as null. -/
def text (t : Text) : List Char :=
  match t.decode? with
  | some text => quoted text.toList
  | none => ['n', 'u', 'l', 'l']

/-- A number, digit for digit as it was written. -/
def number (n : Number) : List Char :=
  let sign := if n.negative then ['-'] else []
  let fraction := if n.fraction = [] then [] else '.' :: n.fraction.map Nat.digitChar
  let exponent :=
    match n.exponent with
    | none => []
    | some e => e.letter :: (e.sign.toList ++ e.digits.map Nat.digitChar)
  sign ++ Radix.decimal n.whole ++ fraction ++ exponent

/-- Items with commas between them. -/
def separated : List (List Char) → List Char
  | [] => []
  | [item] => item
  | item :: rest => item ++ ',' :: separated rest

mutual

def value : Json → List Char
  | .null => ['n', 'u', 'l', 'l']
  | .bool true => ['t', 'r', 'u', 'e']
  | .bool false => ['f', 'a', 'l', 's', 'e']
  | .number n => number n
  | .string t => text t
  | .array elements => '[' :: (separated (values elements) ++ [']'])
  | .object members => '\x7b' :: (separated (memberTexts members) ++ ['\x7d'])

def values : List Json → List (List Char)
  | [] => []
  | element :: rest => value element :: values rest

def memberTexts : List (Text × Json) → List (List Char)
  | [] => []
  | (key, element) :: rest => (text key ++ ':' :: value element) :: memberTexts rest

end

end Writer

/-- The compact text of a value. -/
def render (value : Json) : String := String.ofList (Writer.value value)

end BridgeClient.Json
