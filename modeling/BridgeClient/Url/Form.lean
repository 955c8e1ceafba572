import BridgeClient.Url.Percent

set_option autoImplicit false

/-!
Lists of names and values as queries carry them: `name=value` pairs with `&` between them, where
letters, digits and `*-._` stand for themselves, a space is `+`, and every other byte is encoded.
-/
namespace BridgeClient.Form

def isUnreserved (b : UInt8) : Bool :=
  (48 ≤ b && b ≤ 57) || (65 ≤ b && b ≤ 90) || (97 ≤ b && b ≤ 122) || Percent.isAnyOf "*-._" b

def encodeByte (b : UInt8) : List Char :=
  if isUnreserved b then [Char.ofNat b.toNat]
  else if b = 32 then ['+']
  else Percent.encodeByte b

def encodeBytes (bytes : Bytes) : List Char := bytes.flatMap encodeByte

def encodePair (pair : String × String) : List Char :=
  encodeBytes (Bytes.ofText pair.1) ++ '=' :: encodeBytes (Bytes.ofText pair.2)

/-- The pairs one after the other, behind what the query holds already. -/
def append : List Char → List (String × String) → List Char
  | query, [] => query
  | query, pair :: rest =>
      append ((if query = [] then [] else query ++ ['&']) ++ encodePair pair) rest

/-- The pieces between the places where `separator` stands. -/
def split (separator : UInt8) : Bytes → List Bytes
  | [] => [[]]
  | b :: rest =>
      if b = separator then [] :: split separator rest
      else
        match split separator rest with
        | [] => [[b]]
        | first :: others => (b :: first) :: others

def decodePart (part : Bytes) : Bytes := Percent.decode (part.map fun b => if b = 43 then 32 else b)

/-- A pair; without `=` all is the name. -/
def decodePair (piece : Bytes) : Bytes × Bytes :=
  (decodePart (piece.takeWhile (· ≠ 61)), decodePart ((piece.dropWhile (· ≠ 61)).drop 1))

/-- The pairs of a query, as bytes. Empty pieces are left out. -/
def decodeBytes (query : Bytes) : List (Bytes × Bytes) :=
  ((split 38 query).filter (· ≠ [])).map decodePair

/-- The pairs of a query, if they are UTF-8. -/
def decode? (query : String) : Option (List (String × String)) :=
  (decodeBytes (Bytes.ofText query)).mapM fun pair => do
    let name ← String.fromUTF8? ⟨pair.1.toArray⟩
    let value ← String.fromUTF8? ⟨pair.2.toArray⟩
    return (name, value)

end BridgeClient.Form
