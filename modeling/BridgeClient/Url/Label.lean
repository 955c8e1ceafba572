import BridgeClient.Text.Composed
import BridgeClient.Text.Joining
import BridgeClient.Url.Folding
import BridgeClient.Url.Punycode

set_option autoImplicit false

/-!
Labels of domains: the letters between two points. Letters other than those of ASCII are written in
Punycode behind `xn--`, and a label that begins so has to be what its letters are written as.
-/
namespace BridgeClient

/-- The letters of a label, and how they are written in ASCII. -/
structure Label where
  letters : List Char
  written : List Char
deriving DecidableEq

namespace Label

def isAscii (cs : List Char) : Bool := cs.all fun c => c.toNat < 0x80

/-- What stands in front of Punycode. -/
def codeMark : List Char := "xn--".toList

/-- How many letters a label has at most that is not all ASCII. -/
def maxLetters : Nat := 1000

/-- How many characters of Punycode are read. -/
def maxCode : Nat := 2000

/-- Keeps letters apart that would join. -/
def nonJoiner : Char := '\u200c'

/-- Joins letters that would stand apart. -/
def joiner : Char := '\u200d'

/-- Whether the next letter joins in one of these ways. -/
def meets (ways : List Joining) : List Char → Bool
  | [] => false
  | c :: rest =>
      let way := Joining.ofChar c
      if way = .transparent then meets ways rest else ways.contains way

/-- Whether a joiner or its opposite has a meaning here: behind a sign that silences a vowel, and the
opposite also between letters that would join. The letters before are in reverse order. -/
def mayStand (c : Char) (before after : List Char) : Bool :=
  match before with
  | [] => false
  | last :: _ =>
      Marks.combiningClass last = Marks.viramaClass
        || (c = nonJoiner && meets [.left, .dual] before && meets [.right, .dual] after)

/-- Whether all joiners of a label have a meaning. The letters read so far are in reverse order. -/
def joinersStand (before : List Char) : List Char → Bool
  | [] => true
  | c :: rest =>
      (if c = joiner || c = nonJoiner then mayStand c before rest else true)
        && joinersStand (c :: before) rest

/-- What holds of the letters of every label: no mark in front, no joiner without a meaning, not too
many of them. -/
def isSound (letters : List Char) : Bool :=
  !letters.head?.any Marks.isMark && joinersStand [] letters
    && (isAscii letters || letters.length ≤ maxLetters)

/-- Whether letters stand for themselves. -/
def isPlain (letters : List Char) : Bool :=
  Folding.foldAll? letters = some letters && Composed.ofText letters = letters

/-- A label from its letters. -/
def ofLetters? (letters : List Char) : Option Label :=
  if !isSound letters then none
  else if isAscii letters then some ⟨letters, letters⟩
  else some ⟨letters, codeMark ++ Punycode.encode letters⟩

/-- A label from its Punycode. -/
def ofCode? (code : List Char) : Option Label :=
  if !isAscii code || code = [] || code.getLast? = some '-' || maxCode < code.length then none
  else
    match Punycode.decode? code with
    | none => none
    | some letters =>
        if isPlain letters && isSound letters then some ⟨letters, codeMark ++ code⟩ else none

/-- A label from the text between two points. -/
def ofText? (cs : List Char) : Option Label :=
  match cs with
  | 'x' :: 'n' :: '-' :: '-' :: code => ofCode? code
  | _ => ofLetters? cs

end Label
end BridgeClient
