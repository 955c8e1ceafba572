import BridgeClient.Bytes

set_option autoImplicit false

/-!
The twisted Edwards curve -x² + y² = 1 + d x² y² over the integers mod 2^255 - 19: its group in
projective coordinates, the 32-byte form of a point, and the test whether 32 bytes are such a form.
-/
namespace BridgeClient.Edwards

/-- The field's prime. -/
def fieldPrime : Nat := Nat.pow 2 255 - 19

/-- The order of the base point. -/
def groupOrder : Nat := Nat.pow 2 252 + 27742317777372353535851937790883648493

/-- `base ^ exponent` modulo `modulus`, by squaring. -/
def powMod (modulus base exponent : Nat) : Nat :=
  if exponent = 0 then 1 % modulus
  else
    let half := powMod modulus (base * base % modulus) (exponent / 2)
    if exponent % 2 = 1 then base * half % modulus else half
termination_by exponent
decreasing_by omega

def fmul (a b : Nat) : Nat := a * b % fieldPrime
def fadd (a b : Nat) : Nat := (a + b) % fieldPrime
def fsub (a b : Nat) : Nat := (a + fieldPrime - b % fieldPrime) % fieldPrime

/-- The inverse, by Fermat; zero for zero. -/
def finv (a : Nat) : Nat := powMod fieldPrime a (fieldPrime - 2)

/-- The curve's constant -121665/121666. -/
def curveD : Nat := fmul (fsub 0 121665) (finv 121666)

/-- Zero, or a square by Euler's criterion. -/
def isSquare (a : Nat) : Bool :=
  a % fieldPrime = 0 || powMod fieldPrime a ((fieldPrime - 1) / 2) = 1

/-- A point as (X : Y : Z : T) with x = X/Z, y = Y/Z and xy = T/Z. -/
structure Point where
  x : Nat
  y : Nat
  z : Nat
  t : Nat

namespace Point

def neutral : Point := ⟨0, 1, 1, 0⟩

/-- The sum of two points; one formula serves for all pairs. -/
def add (p q : Point) : Point :=
  let a := fmul (fsub p.y p.x) (fsub q.y q.x)
  let b := fmul (fadd p.y p.x) (fadd q.y q.x)
  let c := fmul (fmul p.t (fadd curveD curveD)) q.t
  let d := fmul (fadd p.z p.z) q.z
  let e := fsub b a
  let f := fsub d c
  let g := fadd d c
  let h := fadd b a
  ⟨fmul e f, fmul g h, fmul f g, fmul e h⟩

/-- The sum of `n` copies of a point, by doubling. -/
def smul (n : Nat) (p : Point) : Point :=
  if n = 0 then neutral
  else
    let half := smul (n / 2) (p.add p)
    if n % 2 = 1 then half.add p else half
termination_by n
decreasing_by omega

/-- The point with y = 4/5 and even x. -/
def base : Point :=
  let x := 15112221349535400772501151409588531511454012693041857206046113283949847762202
  let y := fmul 4 (finv 5)
  ⟨x, y, 1, fmul x y⟩

/-- y in 255 bits, least significant byte first, and the parity of x in the last bit. -/
def encode (p : Point) : FixedBytes 32 :=
  let inverse := finv p.z
  let x := fmul p.x inverse
  let y := fmul p.y inverse
  ⟨Bytes.littleEndian 32 (y + x % 2 * Nat.pow 2 255), by simp⟩

end Point

/-- Whether 32 bytes are the form of a point: with y from the low 255 bits, taken modulo the prime,
some x satisfies x² = (y² - 1) / (d y² + 1). The sign bit is not looked at. -/
def isOnCurve (bytes : FixedBytes 32) : Bool :=
  let y := Bytes.ofLittleEndian bytes.toList % Nat.pow 2 255 % fieldPrime
  let square := fmul y y
  let u := fsub square 1
  let v := fadd (fmul curveD square) 1
  isSquare (fmul u v)

end BridgeClient.Edwards
