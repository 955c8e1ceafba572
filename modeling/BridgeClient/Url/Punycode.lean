set_option autoImplicit false

/-!
Punycode: the letters of a label that are not ASCII are taken out and written behind the rest as a
list of steps through all code points and places, in digits of base 36 whose number varies with the
size of the steps so far.
-/
namespace BridgeClient.Punycode

def base : Nat := 36
def firstCodePoint : Nat := 128

/-- The smallest weight of a digit's place that ends a number, by place and bias. -/
def threshold (place bias : Nat) : Nat := min 26 (max 1 (place - bias))

/-- Halves of a delta until it is small, for the bias. -/
def shrink : Nat → Nat → Nat → Nat × Nat
  | 0, delta, places => (delta, places)
  | steps + 1, delta, places =>
      if 455 < delta then shrink steps (delta / 35) (places + base) else (delta, places)

/-- The bias after a step of this size. -/
def adapt (delta count : Nat) (first : Bool) : Nat :=
  let delta := if first then delta / 700 else delta / 2
  let (delta, places) := shrink 32 (delta + delta / count) 0
  places + 36 * delta / (delta + 38)

def digitChar (d : Nat) : Char := if d < 26 then Char.ofNat (97 + d) else Char.ofNat (22 + d)

def digitOf? (c : Char) : Option Nat :=
  if 'a' ≤ c && c ≤ 'z' then some (c.toNat - 97)
  else if 'A' ≤ c && c ≤ 'Z' then some (c.toNat - 65)
  else if '0' ≤ c && c ≤ '9' then some (c.toNat - 22)
  else none

/-- A step's size in digits, least significant first. The first argument bounds their number. -/
def number : Nat → Nat → Nat → Nat → List Char
  | 0, _, _, _ => []
  | steps + 1, place, bias, size =>
      let t := threshold place bias
      if size < t then [digitChar size]
      else
        digitChar (t + (size - t) % (base - t))
          :: number steps (place + base) bias ((size - t) / (base - t))

/-- The state of writing: the code point reached, the size of the step so far, the bias, how many
characters are written, and whether none but the basic ones are. -/
structure Progress where
  code : Nat
  delta : Nat
  bias : Nat
  count : Nat
  first : Bool

/-- Walks over the label once and writes a step for every place of the next code point. -/
def pass (next : Nat) (state : Progress) : List Nat → List Char × Progress
  | [] => ([], state)
  | c :: rest =>
      if c < next then pass next { state with delta := state.delta + 1 } rest
      else if c = next then
        let digits := number 16 base state.bias state.delta
        let bias := adapt state.delta (state.count + 1) state.first
        let (more, last) := pass next ⟨state.code, 0, bias, state.count + 1, false⟩ rest
        (digits ++ more, last)
      else pass next state rest

/-- Writes the code points that are left, in order. -/
def passes : Nat → Progress → List Nat → List Char
  | 0, _, _ => []
  | steps + 1, state, label =>
      match (label.filter (state.code ≤ ·)).min? with
      | none => []
      | some next =>
          let delta := state.delta + (next - state.code) * (state.count + 1)
          let (digits, last) := pass next { state with delta } label
          digits ++ passes steps { last with code := next + 1, delta := last.delta + 1 } label

/-- A label without its mark. -/
def encode (label : List Char) : List Char :=
  let basic := label.filter fun c => c.toNat < firstCodePoint
  let prefixPart := if basic = [] then [] else basic ++ ['-']
  prefixPart ++
    passes (label.length + 1) ⟨firstCodePoint, 0, 72, basic.length, true⟩ (label.map Char.toNat)

/-- Reads one step's size: the sum, the weight of the next digit and its place. -/
def readNumber (bias : Nat) : Nat → Nat → Nat → List Char → Option (Nat × List Char)
  | _, _, _, [] => none
  | sum, weight, place, c :: rest => do
      let d ← digitOf? c
      let t := threshold place bias
      let sum := sum + d * weight
      if d < t then return (sum, rest) else readNumber bias sum (weight * (base - t)) (place + base) rest

/-- Puts the characters of all steps into the label. -/
def insertAll : Nat → Nat → Nat → Nat → Bool → List Nat → List Char → Option (List Nat)
  | 0, _, _, _, _, _, _ => none
  | _ + 1, _, _, _, _, label, [] => some label
  | steps + 1, code, place, bias, first, label, cs => do
      let (size, rest) ← readNumber bias 0 1 base cs
      let total := place + size
      let count := label.length + 1
      let code := code + total / count
      let place := total % count
      if 0x10ffff < code then none
      else
        insertAll steps code (place + 1) (adapt size count first) false
          (label.take place ++ code :: label.drop place) rest

/-- The label that was written, if it was written by the rules. A hyphen with nothing before it ends
no basic characters. -/
def decode? (text : List Char) : Option (List Char) := do
  let tail := (text.reverse.takeWhile (· ≠ '-')).reverse
  let basic := (text.take (text.length - tail.length)).dropLast
  if basic = [] && tail.length < text.length then none
  else
    let codes ← insertAll (text.length + 1) firstCodePoint 0 72 true (basic.map Char.toNat) tail
    if codes.all fun n => n < 0xd800 || 0xe000 ≤ n then some (codes.map Char.ofNat) else none

end BridgeClient.Punycode
