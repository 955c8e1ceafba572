set_option autoImplicit false

/-!
Decimal numerals as configurations and explorers write them: a sign `+` may stand in front, and `_`
anywhere after the first digit. Nothing else may.
-/
namespace BridgeClient.Numeral

/-- The number after some leading digits, if nothing but digits and `_` follow. -/
def value? : Nat → List Char → Option Nat
  | n, [] => some n
  | n, c :: rest =>
      if c.isDigit then value? (n * 10 + (c.toNat - '0'.toNat)) rest
      else if c = '_' then value? n rest
      else none

/-- The text without its sign. A second sign is not looked through. -/
def unsigned : List Char → List Char
  | '+' :: '+' :: rest => '+' :: '+' :: rest
  | '+' :: rest => rest
  | cs => cs

def parse? (text : String) : Option Nat :=
  match unsigned text.toList with
  | [] => none
  | '_' :: _ => none
  | cs => value? 0 cs

end BridgeClient.Numeral
