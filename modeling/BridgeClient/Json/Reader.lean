import BridgeClient.Json.Basic

set_option autoImplicit false

/-!
Reading JSON byte by byte, each byte as the character with its number. All that JSON itself is written
with is ASCII, so only strings hold other bytes. Nesting is not limited, any bytes make a string and
any four hex digits a code unit; readers of typed values add their own limits.
-/
namespace BridgeClient.Json

namespace Reader

def isBlank (c : Char) : Bool := c = ' ' || c = '\t' || c = '\n' || c = '\r'

def skipBlank (cs : List Char) : List Char := cs.dropWhile isBlank

def hexValue? (c : Char) : Option Nat :=
  if '0' ≤ c && c ≤ '9' then some (c.toNat - '0'.toNat)
  else if 'a' ≤ c && c ≤ 'f' then some (c.toNat - 'a'.toNat + 10)
  else if 'A' ≤ c && c ≤ 'F' then some (c.toNat - 'A'.toNat + 10)
  else none

/-- The character a short escape stands for. -/
def shortEscape? : Char → Option Char
  | '"' => some '"'
  | '\\' => some '\\'
  | '/' => some '/'
  | 'b' => some '\x08'
  | 'f' => some '\x0c'
  | 'n' => some '\n'
  | 'r' => some '\r'
  | 't' => some '\t'
  | _ => none

/-- The pieces up to the closing quote, and what follows it. -/
def pieces : List Char → Option (List Piece × List Char)
  | [] => none
  | '"' :: rest => some ([], rest)
  | '\\' :: 'u' :: a :: b :: c :: d :: rest => do
      let a ← hexValue? a
      let b ← hexValue? b
      let c ← hexValue? c
      let d ← hexValue? d
      let (tail, rest) ← pieces rest
      pure (.unit (((a * 16 + b) * 16 + c) * 16 + d) :: tail, rest)
  | '\\' :: c :: rest => do
      let c ← shortEscape? c
      let (tail, rest) ← pieces rest
      pure (.escape c :: tail, rest)
  | c :: rest =>
      if c.toNat < 0x20 || c = '\\' then none
      else do
        let (tail, rest) ← pieces rest
        pure (.plain (UInt8.ofNat c.toNat) :: tail, rest)

/-- A string whose opening quote has been read. -/
def text (cs : List Char) : Option (Text × List Char) :=
  (pieces cs).map fun (pieces, rest) => (⟨pieces⟩, rest)

def digitValue (c : Char) : Nat := c.toNat - '0'.toNat

/-- The number with these decimal digits, most significant first. -/
def decimalValue (digits : List Nat) : Nat := digits.foldl (fun n d => n * 10 + d) 0

/-- The digits in front, and the rest. -/
def digits (cs : List Char) : List Nat × List Char :=
  ((cs.takeWhile Char.isDigit).map digitValue, cs.dropWhile Char.isDigit)

/-- At least one digit, and the rest. -/
def someDigits (cs : List Char) : Option (List Nat × List Char) :=
  match digits cs with
  | ([], _) => none
  | result => some result

def whole (cs : List Char) : Option (Nat × List Char) :=
  match cs with
  | '0' :: rest => some (0, rest)
  | _ => (someDigits cs).map fun (ds, rest) => (decimalValue ds, rest)

def fraction (cs : List Char) : Option (List Nat × List Char) :=
  match cs with
  | '.' :: rest => someDigits rest
  | _ => some ([], cs)

/-- The sign in front, if there is one, and the rest. -/
def sign : List Char → Option Char × List Char
  | '+' :: rest => (some '+', rest)
  | '-' :: rest => (some '-', rest)
  | cs => (none, cs)

def exponent (cs : List Char) : Option (Option Exponent × List Char) :=
  match cs with
  | c :: rest =>
      if c = 'e' || c = 'E' then
        (someDigits (sign rest).2).map fun (ds, after) => (some ⟨c, (sign rest).1, ds⟩, after)
      else some (none, cs)
  | [] => some (none, [])

/-- A number, without leading zeros in its whole part. -/
def number (cs : List Char) : Option (Number × List Char) := do
  let (negative, cs) :=
    match cs with
    | '-' :: rest => (true, rest)
    | _ => (false, cs)
  let (whole, cs) ← whole cs
  let (fraction, cs) ← fraction cs
  let (exponent, cs) ← exponent cs
  match cs with
  | c :: _ => if c.isDigit then none else pure (⟨negative, whole, fraction, exponent⟩, cs)
  | [] => pure (⟨negative, whole, fraction, exponent⟩, [])

/-- A value and the blanks behind it. -/
def padded (value : List Char → Option (Json × List Char)) (cs : List Char) :
    Option (Json × List Char) :=
  (value cs).map fun read => (read.1, skipBlank read.2)

/-- A member of an object and the blanks behind it. -/
def member (value : List Char → Option (Json × List Char)) (cs : List Char) :
    Option ((Text × Json) × List Char) :=
  match skipBlank cs with
  | '"' :: cs => do
      let (key, cs) ← text cs
      match skipBlank cs with
      | ':' :: cs => (padded value cs).map fun read => ((key, read.1), read.2)
      | _ => none
  | _ => none

/-- One item, and others if a comma follows it, up to the closing character. -/
def separated {α : Type} (close : Char) (first : Option (α × List Char))
    (others : List Char → Option (List α × List Char)) : Option (List α × List Char) :=
  match first with
  | some (item, ',' :: cs) => (others cs).map fun read => (item :: read.1, read.2)
  | some (item, c :: cs) => if c = close then some ([item], cs) else none
  | _ => none

mutual

/-- One value after blanks, and what follows it. The first argument bounds the steps. -/
def value : Nat → List Char → Option (Json × List Char)
  | 0, _ => none
  | steps + 1, cs =>
      match skipBlank cs with
      | 'n' :: 'u' :: 'l' :: 'l' :: rest => some (.null, rest)
      | 't' :: 'r' :: 'u' :: 'e' :: rest => some (.bool true, rest)
      | 'f' :: 'a' :: 'l' :: 's' :: 'e' :: rest => some (.bool false, rest)
      | '"' :: rest => (text rest).map fun (text, rest) => (.string text, rest)
      | '[' :: rest =>
          match skipBlank rest with
          | ']' :: rest => some (.array [], rest)
          | rest => (elements steps rest).map fun (elements, rest) => (.array elements, rest)
      | '\x7b' :: rest =>
          match skipBlank rest with
          | '\x7d' :: rest => some (.object [], rest)
          | rest => (members steps rest).map fun (members, rest) => (.object members, rest)
      | rest => (number rest).map fun (number, rest) => (.number number, rest)

/-- At least one element, up to the closing bracket. -/
def elements : Nat → List Char → Option (List Json × List Char)
  | 0, _ => none
  | steps + 1, cs => separated ']' (padded (value steps) cs) (elements steps)

/-- At least one member, up to the closing brace. -/
def members : Nat → List Char → Option (List (Text × Json) × List Char)
  | 0, _ => none
  | steps + 1, cs => separated '\x7d' (member (value steps) cs) (members steps)

end

end Reader

/-- The value that some bytes make up, blanks around it apart. -/
def parseBytes? (bytes : Bytes) : Option Json :=
  let cs := bytes.toChars
  match Reader.value (2 * cs.length + 2) cs with
  | some (value, rest) => if Reader.skipBlank rest = [] then some value else none
  | none => none

/-- The value that makes up a whole text. -/
def parse? (text : String) : Option Json := parseBytes? (Bytes.ofText text)

end BridgeClient.Json
