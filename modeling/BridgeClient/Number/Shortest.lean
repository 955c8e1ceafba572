import BridgeClient.Number.Binary64
import BridgeClient.Number.Radix

set_option autoImplicit false

/-!
The shortest decimal that reads back as a given double, and a way to write it.

For one digit, two digits and so on the two neighbours of the number on that decimal grid are tested
against the interval of reals that round to it. The first grid with a hit wins, and of two hits the
nearer one; a tie goes to the even digit.
-/
namespace BridgeClient.Binary64

/-- A positive decimal `digits * 10^scale`. -/
structure Decimal where
  digits : Nat
  scale : Int
deriving DecidableEq

/-- The reals that round to a positive finite double, in quarters of 2^-1074: the end points, and
whether they belong to it. -/
structure RoundingInterval where
  low : Nat
  high : Nat
  closed : Bool

def roundingInterval (x : Binary64) : RoundingInterval :=
  let gap := Nat.pow 2 (x.exponent - 1)
  let below := if x.fraction = 0 && 1 < x.exponent then gap else 2 * gap
  ⟨4 * x.magnitude - below, 4 * x.magnitude + 2 * gap, x.significand % 2 = 0⟩

def RoundingInterval.contains (interval : RoundingInterval) (num den : Nat) : Bool :=
  if interval.closed then interval.low * den ≤ num && num ≤ interval.high * den
  else interval.low * den < num && num < interval.high * den

/-- The power of ten at or below `num / den`, found from a starting guess that is not above it. -/
def floorLog10 : Nat → Int → Nat → Nat → Int
  | 0, guess, _, _ => guess
  | steps + 1, guess, num, den =>
      let next := guess + 1
      let fits :=
        if 0 ≤ next then Nat.pow 10 next.toNat * den ≤ num
        else den ≤ num * Nat.pow 10 (-next).toNat
      if fits then floorLog10 steps next num den else guess

/-- Removes zeros at the end of the digits. -/
def Decimal.trim : Nat → Decimal → Decimal
  | 0, d => d
  | steps + 1, d =>
      if d.digits ≠ 0 && d.digits % 10 = 0 then trim steps ⟨d.digits / 10, d.scale + 1⟩ else d

/-- The decimal with the given number of digits that reads back, if there is one. `top` is the
power of ten of the first digit. -/
def decimalOfLength? (x : Binary64) (top : Int) (count : Nat) : Option Decimal :=
  let scale := top - (count - 1 : Nat)
  let up := Nat.pow 10 (-scale).toNat
  let down := Nat.pow 10 scale.toNat
  let num := x.magnitude * up
  let den := unitsPerOne * down
  let low := num / den
  let inside (candidate : Nat) : Bool :=
    x.roundingInterval.contains (candidate * (4 * den)) up
  let high := low + 1
  let lowFits := low ≠ 0 && inside low
  match lowFits, inside high with
  | true, true =>
      let twice := 2 * (num % den)
      if twice < den || (twice = den && low % 2 = 0) then some ⟨low, scale⟩ else some ⟨high, scale⟩
  | true, false => some ⟨low, scale⟩
  | false, true => some ⟨high, scale⟩
  | false, false => none

/-- The shortest decimal of a positive finite double. Seventeen digits always suffice. -/
def shortest (x : Binary64) : Decimal :=
  let num := x.magnitude
  let whole := num / unitsPerOne
  let guess : Int := if whole = 0 then -325 else (Radix.digits 10 whole).length - 2
  let top := floorLog10 330 guess num unitsPerOne
  let found := (List.range 17).findSome? fun i => decimalOfLength? x top (i + 1)
  (found.getD ⟨num, 0⟩).trim 400

/-- Digits with a point put `places` from the right, zeros filling up on the left. -/
def withPoint (digits : List Char) (places : Nat) : List Char :=
  let padded := List.replicate (places + 1 - digits.length) '0' ++ digits
  padded.take (padded.length - places) ++ '.' :: padded.drop (padded.length - places)

/-- A number in positional form: no exponent whatever its size, no point in a whole number. -/
def positional (x : Binary64) : String :=
  let sign := if x.isNegative then ['-'] else []
  if x.isNaN then "NaN"
  else if x.isInfinite then String.ofList (sign ++ ['i', 'n', 'f'])
  else if x.isZero then String.ofList (sign ++ ['0'])
  else
    let d := x.shortest
    let digits := Radix.decimal d.digits
    let body :=
      if 0 ≤ d.scale then digits ++ List.replicate d.scale.toNat '0'
      else withPoint digits (-d.scale).toNat
    String.ofList (sign ++ body)

end BridgeClient.Binary64
