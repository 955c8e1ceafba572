import BridgeClient.Number.Radix
import BridgeClient.Text.Quoted

set_option autoImplicit false

/-! Network addresses in URLs: four or fewer numbers with points, or eight groups in brackets. -/
namespace BridgeClient

namespace Ipv4

def isDigitOf (base : Nat) (c : Char) : Bool :=
  if base = 16 then c.isDigit || ('a' ≤ c && c ≤ 'f') || ('A' ≤ c && c ≤ 'F')
  else '0' ≤ c && c.toNat < 48 + base

def digitValue (c : Char) : Nat :=
  if c.isDigit then c.toNat - 48 else if 'a' ≤ c then c.toNat - 87 else c.toNat - 55

/-- A number in base ten, in base eight after a zero, or in base sixteen after `0x`. -/
def number? (cs : List Char) : Option Nat :=
  let inBase (base : Nat) (digits : List Char) : Option Nat :=
    if digits.all (isDigitOf base) then some (Radix.ofDigits base (digits.map digitValue).reverse)
    else none
  match cs with
  | [] => none
  | '0' :: 'x' :: digits => inBase 16 digits
  | '0' :: 'X' :: digits => inBase 16 digits
  | '0' :: d :: digits => inBase 8 (d :: digits)
  | digits => inBase 10 digits

/-- The pieces between points. -/
def pieces : List Char → List (List Char)
  | [] => [[]]
  | '.' :: rest => [] :: pieces rest
  | c :: rest =>
      match pieces rest with
      | [] => [[c]]
      | first :: others => (c :: first) :: others

/-- The pieces, without an empty one at the end. -/
def parts (cs : List Char) : List (List Char) :=
  match (pieces cs).reverse with
  | [] :: others => others.reverse
  | _ => pieces cs

/-- Whether a host has to be an address of this kind: its last part is a number. -/
def isMeant (cs : List Char) : Bool :=
  match (parts cs).getLast? with
  | some (c :: last) => (c :: last).all Char.isDigit || (number? (c :: last)).isSome
  | _ => false

/-- The address: each part but the last is a byte, the last fills what is left. -/
def parse? (cs : List Char) : Option Nat := do
  let numbers ← (parts cs).mapM number?
  match numbers.reverse with
  | [] => none
  | last :: front =>
      let room := Nat.pow 256 (4 - front.length)
      if 4 < numbers.length || room ≤ last || front.any (255 < ·) then none
      else some (Radix.ofDigits 256 front * room + last)

def render (address : Nat) : List Char :=
  let byte (n : Nat) : List Char := Radix.decimal (address / n % 256)
  byte 0x1000000 ++ '.' :: byte 0x10000 ++ '.' :: byte 0x100 ++ '.' :: byte 1

end Ipv4

namespace Ipv6

/-- The groups read so far, and how many of them stood before the gap, if there was one. -/
structure Groups where
  groups : List Nat
  gap : Option Nat

/-- A byte without zeros in front. -/
def byte? (cs : List Char) : Option Nat :=
  match cs with
  | ['0'] => some 0
  | '0' :: _ => none
  | [] => none
  | _ =>
      if cs.length ≤ 3 && cs.all Char.isDigit then
        (some (Radix.ofDigits 10 (cs.map Ipv4.digitValue).reverse)).filter (· ≤ 255)
      else none

/-- Four bytes with points, as two groups. -/
def lastGroups? (cs : List Char) : Option (List Nat) := do
  match ← (Ipv4.pieces cs).mapM byte? with
  | [a, b, c, d] => some [a * 256 + b, c * 256 + d]
  | _ => none

/-- Reads groups up to the end. The first argument bounds their number. -/
def groups? : Nat → Groups → List Char → Option Groups
  | _, read, [] => some read
  | 0, _, _ => none
  | steps + 1, read, ':' :: rest =>
      if read.gap.isSome then none
      else groups? steps { read with gap := some read.groups.length } rest
  | steps + 1, read, cs =>
      let digits := (cs.take 4).takeWhile (Ipv4.isDigitOf 16)
      let value := Radix.ofDigits 16 (digits.map Ipv4.digitValue).reverse
      let next : Groups := { read with groups := read.groups ++ [value] }
      match cs.drop digits.length with
      | [] => some next
      | ':' :: c :: rest => groups? steps next (c :: rest)
      | '.' :: _ =>
          if digits = [] then none
          else (lastGroups? cs).map fun last => { read with groups := read.groups ++ last }
      | _ => none

/-- Eight groups. A gap stands for at least one group of zero. -/
def parse? (cs : List Char) : Option (List Nat) := do
  let read ←
    match cs with
    | ':' :: ':' :: rest => groups? 9 ⟨[], some 0⟩ rest
    | ':' :: _ => none
    | _ => groups? 9 ⟨[], none⟩ cs
  match read.gap with
  | none => if read.groups.length = 8 then some read.groups else none
  | some before =>
      if read.groups.length < 8 then
        some (read.groups.take before ++ List.replicate (8 - read.groups.length) 0
          ++ read.groups.drop before)
      else none

/-- How many zeros stand in front. -/
def zeros (groups : List Nat) : Nat := (groups.takeWhile (· = 0)).length

/-- The first place where the most zeros stand in a row, and their number. -/
def longestGap (groups : List Nat) : Nat × Nat :=
  (List.range groups.length).foldl
    (fun best place =>
      let run := zeros (groups.drop place)
      if best.2 < run then (place, run) else best)
    (0, 0)

def joined (groups : List Nat) : List Char :=
  ":".toList.intercalate (groups.map Quoted.hexDigits)

/-- The shortest form: two or more zeros in a row are left out once. -/
def render (groups : List Nat) : List Char :=
  let (place, run) := longestGap groups
  if run < 2 then joined groups
  else joined (groups.take place) ++ ':' :: ':' :: joined (groups.drop (place + run))

end Ipv6
end BridgeClient
