import BridgeClient.Json.Reader

set_option autoImplicit false

/-! The grammar of JSON: which bytes spell a value, each as the character with its number. -/
namespace BridgeClient.Json

/-- Only spaces, tabs and line ends. -/
def Blank (cs : List Char) : Prop := ∀ c ∈ cs, c = ' ' ∨ c = '\t' ∨ c = '\n' ∨ c = '\r'

/-! ## Strings -/

inductive Piece.Spelled : Piece → List Char → Prop
  | plain {c : Char} (visible : 0x20 ≤ c.toNat) (inside : c ≠ '"') (bare : c ≠ '\\') :
      Spelled (.plain (UInt8.ofNat c.toNat)) [c]
  | escape {letter c : Char} (short : Reader.shortEscape? letter = some c) :
      Spelled (.escape c) ['\\', letter]
  | unit {w x y z : Char} {a b c d : Nat} (first : Reader.hexValue? w = some a)
      (second : Reader.hexValue? x = some b) (third : Reader.hexValue? y = some c)
      (fourth : Reader.hexValue? z = some d) :
      Spelled (.unit (((a * 16 + b) * 16 + c) * 16 + d)) ['\\', 'u', w, x, y, z]

/-- What stands between the quotes of a string. -/
inductive PiecesSpelled : List Piece → List Char → Prop
  | nil : PiecesSpelled [] []
  | cons {piece : Piece} {others : List Piece} {first rest : List Char}
      (head : piece.Spelled first) (tail : PiecesSpelled others rest) :
      PiecesSpelled (piece :: others) (first ++ rest)

/-- A string between its quotes. -/
inductive Text.Spelled : Text → List Char → Prop
  | quoted {pieces : List Piece} {cs : List Char} (inside : PiecesSpelled pieces cs) :
      Spelled ⟨pieces⟩ ('"' :: (cs ++ ['"']))

/-! ## Numbers -/

/-- Decimal digits, at least one. -/
structure Digits (digits : List Nat) (cs : List Char) : Prop where
  nonempty : cs ≠ []
  decimal : ∀ c ∈ cs, c.isDigit = true
  values : digits = cs.map Reader.digitValue

/-- The part in front of the point has no zeros in front. -/
inductive WholeSpelled : Nat → List Char → Prop
  | zero : WholeSpelled 0 ['0']
  | leading {digits : List Nat} {cs : List Char} (run : Digits digits cs)
      (first : cs.head? ≠ some '0') : WholeSpelled (Reader.decimalValue digits) cs

inductive FractionSpelled : List Nat → List Char → Prop
  | none : FractionSpelled [] []
  | point {digits : List Nat} {cs : List Char} (run : Digits digits cs) :
      FractionSpelled digits ('.' :: cs)

inductive ExponentSpelled : Option Exponent → List Char → Prop
  | none : ExponentSpelled none []
  | power {letter : Char} {sign : Option Char} {digits : List Nat} {cs : List Char}
      (marked : letter = 'e' ∨ letter = 'E') (signed : ∀ c ∈ sign, c = '+' ∨ c = '-')
      (run : Digits digits cs) :
      ExponentSpelled (some ⟨letter, sign, digits⟩) (letter :: (sign.toList ++ cs))

inductive Number.Spelled : Number → List Char → Prop
  | parts {negative : Bool} {whole : Nat} {fraction : List Nat} {exponent : Option Exponent}
      {front middle back : List Char} (first : WholeSpelled whole front)
      (second : FractionSpelled fraction middle) (third : ExponentSpelled exponent back) :
      Spelled ⟨negative, whole, fraction, exponent⟩
        ((if negative then ['-'] else []) ++ (front ++ (middle ++ back)))

/-! ## Values -/

/-- What a stretch of characters can stand for: a value, alone or with blanks around it, a member of
an object, or all the elements or members between brackets or braces. -/
inductive Phrase where
  | value (json : Json)
  | padded (json : Json)
  | elements (elements : List Json)
  | member (name : Text) (json : Json)
  | members (members : List (Text × Json))

inductive Phrase.Spelled : Phrase → List Char → Prop
  | null : Spelled (.value .null) ['n', 'u', 'l', 'l']
  | true : Spelled (.value (.bool .true)) ['t', 'r', 'u', 'e']
  | false : Spelled (.value (.bool .false)) ['f', 'a', 'l', 's', 'e']
  | number {number : Number} {cs : List Char} (digits : number.Spelled cs) :
      Spelled (.value (.number number)) cs
  | string {text : Text} {cs : List Char} (quoted : text.Spelled cs) :
      Spelled (.value (.string text)) cs
  | emptyArray {blank : List Char} (nothing : Blank blank) :
      Spelled (.value (.array [])) ('[' :: (blank ++ [']']))
  | array {elements : List Json} {cs : List Char} (inside : Spelled (.elements elements) cs) :
      Spelled (.value (.array elements)) ('[' :: (cs ++ [']']))
  | emptyObject {blank : List Char} (nothing : Blank blank) :
      Spelled (.value (.object [])) ('\x7b' :: (blank ++ ['\x7d']))
  | object {members : List (Text × Json)} {cs : List Char}
      (inside : Spelled (.members members) cs) :
      Spelled (.value (.object members)) ('\x7b' :: (cs ++ ['\x7d']))
  | padded {json : Json} {before cs after : List Char} (left : Blank before)
      (inside : Spelled (.value json) cs) (right : Blank after) :
      Spelled (.padded json) (before ++ (cs ++ after))
  | oneElement {json : Json} {cs : List Char} (only : Spelled (.padded json) cs) :
      Spelled (.elements [json]) cs
  | moreElements {json : Json} {others : List Json} {cs rest : List Char}
      (first : Spelled (.padded json) cs) (more : Spelled (.elements others) rest) :
      Spelled (.elements (json :: others)) (cs ++ ',' :: rest)
  | member {name : Text} {json : Json} {before key between cs : List Char} (left : Blank before)
      (named : name.Spelled key) (apart : Blank between) (inside : Spelled (.padded json) cs) :
      Spelled (.member name json) (before ++ (key ++ (between ++ ':' :: cs)))
  | oneMember {name : Text} {json : Json} {cs : List Char} (only : Spelled (.member name json) cs) :
      Spelled (.members [(name, json)]) cs
  | moreMembers {name : Text} {json : Json} {others : List (Text × Json)} {cs rest : List Char}
      (first : Spelled (.member name json) cs) (more : Spelled (.members others) rest) :
      Spelled (.members ((name, json) :: others)) (cs ++ ',' :: rest)

/-- Some bytes spell a value, with blanks around it. -/
def Spells (bytes : Bytes) (json : Json) : Prop := (Phrase.padded json).Spelled bytes.toChars

end BridgeClient.Json
