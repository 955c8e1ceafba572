set_option autoImplicit false

/-! Letter case, where only the letters of ASCII have one. -/
namespace BridgeClient.Ascii

def lower (c : Char) : Char :=
  if 'A' ≤ c && c ≤ 'Z' then Char.ofNat (c.toNat + 32) else c

/-- Equality up to the case of ASCII letters. Any other character stands only for itself. -/
def equalIgnoringCase (a b : String) : Bool := a.toList.map lower = b.toList.map lower

end BridgeClient.Ascii
