import BridgeClient.Text.Direction
import BridgeClient.Url.Address
import BridgeClient.Url.Label

set_option autoImplicit false

/-!
Domains: labels with points between them. The characters of a domain are read as what they stand for,
and letters of scripts written from right to left bring a rule on how labels mix directions.
-/
namespace BridgeClient.Domain

/-- What no domain holds. -/
def isForbidden (c : Char) : Bool :=
  c.toNat ≤ 0x20 || c.toNat = 0x7f || "%#/:<>?@[\\]^|".toList.contains c

/-- Whether a character is written from right to left, or is a digit that comes with such ones. -/
def isBackward (c : Char) : Bool :=
  let direction := Direction.ofChar c
  direction = .rightToLeft || direction = .arabicDigit

/-- The directions of what follows the first letter, without marks at the end. -/
def body (letters : List Char) : List Direction :=
  ((letters.map Direction.ofChar).reverse.dropWhile (· = .mark)).reverse

/-- Whether a label keeps to the direction of its first letter. One from left to right holds nothing
that is written backward; one from right to left has digits of one kind. Both end with a letter of
theirs or a digit. -/
def keepsDirection (letters : List Char) : Bool :=
  match letters with
  | [] => true
  | first :: rest =>
      let after := body rest
      let endsWith (directions : List Direction) : Bool :=
        match after.getLast? with
        | none => true
        | some last => directions.contains last
      match Direction.ofChar first with
      | .leftToRight =>
          after.all (fun direction => direction ≠ .rightToLeft && direction ≠ .arabicDigit)
            && endsWith [.leftToRight, .europeanDigit]
      | .rightToLeft =>
          after.all (· ≠ .leftToRight)
            && !(after.contains .europeanDigit && after.contains .arabicDigit)
            && endsWith [.rightToLeft, .europeanDigit, .arabicDigit]
      | _ => false

/-- A domain as it is written. -/
def parse? (cs : List Char) : Option (List Char) := do
  let text := Composed.ofText (← Folding.foldAll? cs)
  if text.any isForbidden then none
  else
    let labels ← (Ipv4.pieces text).mapM Label.ofText?
    if labels.any (fun label => label.letters.any isBackward)
        && !labels.all (fun label => keepsDirection label.letters) then none
    else some (".".toList.intercalate (labels.map Label.written))

end BridgeClient.Domain
