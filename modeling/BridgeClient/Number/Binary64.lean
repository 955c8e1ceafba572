import BridgeClient.Bytes

set_option autoImplicit false

/-!
Double precision numbers as bit patterns, with exact arithmetic.

A finite number is a whole multiple of the least subnormal 2^-1074. `magnitude` is that multiple, so
sums, products and quotients are computed on natural numbers and rounded once, to the nearest
double, a tie going to the even neighbour.
-/
namespace BridgeClient

/-- A double as its 64 bits: sign, eleven exponent bits, 52 fraction bits. -/
structure Binary64 where
  bits : UInt64
deriving DecidableEq

namespace Binary64

/-- The place of the sign: 2^63. -/
def signUnit : Nat := 0x8000000000000000

/-- The place of the exponent field, and the leading one of a significand: 2^52. -/
def exponentUnit : Nat := 0x10000000000000

/-- The pattern of infinity without a sign: every bit of the exponent is set. -/
def infinitePattern : Nat := 0x7ff0000000000000

/-- The sign bit. -/
def isNegative (x : Binary64) : Bool := signUnit ≤ x.bits.toNat

/-- The bits below the sign. -/
def unsigned (x : Binary64) : Nat := x.bits.toNat % signUnit

/-- The biased exponent field. -/
def exponent (x : Binary64) : Nat := x.unsigned / exponentUnit

/-- The fraction field. -/
def fraction (x : Binary64) : Nat := x.unsigned % exponentUnit

def isFinite (x : Binary64) : Bool := x.exponent < 2047

def isInfinite (x : Binary64) : Bool := x.unsigned = infinitePattern

def isNaN (x : Binary64) : Bool := infinitePattern < x.unsigned

def isZero (x : Binary64) : Bool := x.unsigned = 0

/-- The fraction with its implicit leading one, which subnormals lack. -/
def significand (x : Binary64) : Nat :=
  if x.exponent = 0 then x.fraction else exponentUnit + x.fraction

/-- The size of a finite number in units of 2^-1074. -/
def magnitude (x : Binary64) : Nat := x.significand * Nat.pow 2 (x.exponent - 1)

/-- The units of 2^-1074 in one. -/
def unitsPerOne : Nat := Nat.pow 2 1074

/-- A finite number above zero. -/
def isPositiveFinite (x : Binary64) : Bool := x.isFinite && !x.isNegative && !x.isZero

/-- The unsigned bits with the sign put in front. -/
def ofParts (negative : Bool) (unsigned : Nat) : Binary64 :=
  ⟨UInt64.ofNat ((if negative then signUnit else 0) + unsigned)⟩

def zero : Binary64 := ⟨0⟩
def one : Binary64 := ⟨0x3ff0000000000000⟩
def ten : Binary64 := ⟨0x4024000000000000⟩

/-- The one NaN that arithmetic here produces. -/
def nan : Binary64 := ⟨0x7ff8000000000000⟩

def infinity (negative : Bool) : Binary64 := ofParts negative infinitePattern

/-- The whole number nearest to a quotient, a half going to the even one. -/
def roundHalfEven (num den : Nat) : Nat :=
  let quotient := num / den
  let rest := num % den
  if 2 * rest < den then quotient
  else if den < 2 * rest then quotient + 1
  else quotient + quotient % 2

/-- Unsigned bits of the double nearest to `num / den` units of 2^-1074. The quotient is cut to 53
bits after a shift of `k`; the pattern is then `k * 2^52` plus those bits, which also carries a
rounded up significand into the next exponent, and anything past the largest finite pattern is
infinite. -/
def nearestUnits (num den : Nat) : Nat :=
  let k := Nat.log2 (num / den) - 52
  min (k * exponentUnit + roundHalfEven num (den * Nat.pow 2 k)) infinitePattern

/-- The double nearest to `num / den` units of 2^-1074 with the given sign. -/
def roundUnits (negative : Bool) (num den : Nat) : Binary64 :=
  ofParts negative (nearestUnits num den)

/-- The double nearest to a natural number; infinite past the largest finite double. -/
def ofNat (n : Nat) : Binary64 := roundUnits false (n * unitsPerOne) 1

/-- The double nearest to `digits * 10^scale`. Scales at which only zero or infinity can come out are
not computed. -/
def ofDecimal (digits : Nat) (scale : Int) : Binary64 :=
  if digits = 0 then zero
  else if 310 ≤ scale then infinity false
  else if scale < -(400 + 4 * (Nat.log2 digits : Int)) then zero
  else roundUnits false (digits * Nat.pow 10 scale.toNat * unitsPerOne) (Nat.pow 10 (-scale).toNat)

/-- The rounded product. -/
def mul (x y : Binary64) : Binary64 :=
  let negative := x.isNegative != y.isNegative
  if x.isNaN || y.isNaN then nan
  else if x.isInfinite || y.isInfinite then
    if x.isZero || y.isZero then nan else infinity negative
  else roundUnits negative (x.magnitude * y.magnitude) unitsPerOne

/-- The rounded quotient. -/
def div (x y : Binary64) : Binary64 :=
  let negative := x.isNegative != y.isNegative
  if x.isNaN || y.isNaN then nan
  else if x.isInfinite then (if y.isInfinite then nan else infinity negative)
  else if y.isInfinite then ofParts negative 0
  else if y.isZero then (if x.isZero then nan else infinity negative)
  else roundUnits negative (x.magnitude * unitsPerOne) y.magnitude

/-- A finite number in units of 2^-1074, with its sign. -/
def signedMagnitude (x : Binary64) : Int :=
  if x.isNegative then -(x.magnitude : Int) else x.magnitude

/-- The rounded sum. A zero sum is negative only when both terms are. -/
def add (x y : Binary64) : Binary64 :=
  if x.isNaN || y.isNaN then nan
  else if x.isInfinite then
    (if y.isInfinite && x.isNegative != y.isNegative then nan else x)
  else if y.isInfinite then y
  else
    let sum := x.signedMagnitude + y.signedMagnitude
    if sum = 0 then ofParts (x.isNegative && y.isNegative) 0
    else roundUnits (sum < 0) sum.natAbs 1

/-- Numeric order; no NaN is at most anything. -/
def le (x y : Binary64) : Bool :=
  if x.isNaN || y.isNaN then false
  else if x.isInfinite then x.isNegative || (y.isInfinite && !y.isNegative)
  else if y.isInfinite then !y.isNegative
  else x.signedMagnitude ≤ y.signedMagnitude

/-- Numeric equality: the two zeros agree and a NaN equals nothing. -/
def numEq (x y : Binary64) : Bool :=
  !x.isNaN && !y.isNaN && (x.bits == y.bits || (x.isZero && y.isZero))

/-- Squares the base once per binary digit of the exponent and multiplies in the squares of the
digits that are one. The base is not squared past the last digit. -/
def powerLoop (result base : Binary64) (n : Nat) : Binary64 :=
  let result := if n % 2 = 1 then result.mul base else result
  if n / 2 = 0 then result else powerLoop result (base.mul base) (n / 2)
termination_by n
decreasing_by omega

/-- Integer power by repeated squaring, every step rounded; a negative exponent takes the
reciprocal at the end. -/
def powi (base : Binary64) (n : Int) : Binary64 :=
  let power := powerLoop one base n.natAbs
  if n < 0 then one.div power else power

/-- Ten to a scale in 0..2^32-1, the scale being read as a 32-bit two's complement number. -/
def powerOfTen (decimals : UInt32) : Binary64 := ten.powi decimals.toInt32.toInt

/-- The whole part of a positive number below 2^128: what is left of the point is at most 128 bits,
so the significand is shifted right or left by the exponent. -/
def wholeBelow128 (x : Binary64) : Nat :=
  if x.exponent < 1075 then x.significand >>> (1075 - max x.exponent 1)
  else x.significand <<< (x.exponent - 1075)

/-- The whole part of a number from 2^128 on: the fraction under its leading one, shifted by the
exponent. -/
def wholeFrom128 (x : Binary64) : Nat := (exponentUnit + x.fraction) <<< (x.exponent - 1075)

/-- Bit pattern of 2^128. -/
def twoTo128 : Binary64 := ⟨0x47f0000000000000⟩

/-- The whole part of a positive finite number, computed on one of two paths by its size; zero for
everything else. -/
def floorNat (x : Binary64) : Nat :=
  if x.isPositiveFinite then
    if x.unsigned < twoTo128.unsigned then x.wholeBelow128 else x.wholeFrom128
  else 0

/-- The eight bytes of the pattern, least significant first. -/
def toBytes (x : Binary64) : FixedBytes 8 := ⟨Bytes.littleEndian 8 x.bits.toNat, by simp⟩

/-- The number whose pattern these bytes are, least significant first. -/
def ofBytes (bytes : FixedBytes 8) : Binary64 :=
  ⟨UInt64.ofNat (Bytes.ofLittleEndian bytes.toList)⟩

theorem ofBytes_toBytes (x : Binary64) : ofBytes x.toBytes = x := by
  have h := x.bits.toNat_lt
  simp only [ofBytes, toBytes, Bytes.ofLittleEndian_littleEndian]
  rw [Nat.mod_eq_of_lt (by simpa using h)]
  simp

theorem toBytes_ofBytes (bytes : FixedBytes 8) : (ofBytes bytes).toBytes = bytes := by
  apply FixedBytes.ext_toList
  have hlt := Bytes.ofLittleEndian_lt bytes.toList
  rw [bytes.length_eq] at hlt
  have hn : (ofBytes bytes).bits.toNat = Bytes.ofLittleEndian bytes.toList := by
    simp only [ofBytes, UInt64.toNat_ofNat']
    exact Nat.mod_eq_of_lt (by simpa using hlt)
  simp only [toBytes, hn]
  have := Bytes.littleEndian_ofLittleEndian bytes.toList
  rwa [bytes.length_eq] at this

end Binary64
end BridgeClient
