set_option autoImplicit false

/-! White space in the sense of Unicode, and its removal at the ends of a text. -/
namespace BridgeClient.Blank

/-- The property White_Space. -/
def isBlank (c : Char) : Bool :=
  let n := c.toNat
  (0x09 ≤ n && n ≤ 0x0d) || n = 0x20 || n = 0x85 || n = 0xa0 || n = 0x1680
    || (0x2000 ≤ n && n ≤ 0x200a) || n = 0x2028 || n = 0x2029 || n = 0x202f || n = 0x205f
    || n = 0x3000

/-- The characters without those of a class at either end. -/
def trimChars (drops : Char → Bool) (cs : List Char) : List Char :=
  ((cs.dropWhile drops).reverse.dropWhile drops).reverse

/-- A text without blanks at either end. -/
def trim (text : String) : String := String.ofList (trimChars isBlank text.toList)

end BridgeClient.Blank
