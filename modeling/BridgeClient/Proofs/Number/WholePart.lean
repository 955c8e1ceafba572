import BridgeClient.Amount
import BridgeClient.Proofs.Number.Arithmetic
import Mathlib.Algebra.Order.Floor.Semifield
import Mathlib.Data.Rat.Floor

set_option autoImplicit false

/-!
The whole part of a double is the floor of the number that its bits stand for, on both of the paths
that compute it, so it grows with the double past the place where one path takes over from the other.
-/
namespace BridgeClient

namespace Binary64

variable {x : Binary64}

/-- The number that a finite double stands for. Subnormals have the exponent of the least normal
numbers. -/
def toRat (x : Binary64) : ℚ :=
  (if x.isNegative then -1 else 1) * x.significand * 2 ^ ((max x.exponent 1 : ℤ) - 1075)

theorem toRat_eq (x : Binary64) : x.toRat = x.signedMagnitude / unitsPerOne := by
  have scale : (2 : ℚ) ^ ((max x.exponent 1 : ℤ) - 1075) =
      2 ^ (x.exponent - 1) / unitsPerOne := by
    have exponents : (max x.exponent 1 : ℤ) - 1075 = (x.exponent - 1 : ℕ) - (1074 : ℕ) := by omega
    rw [exponents, zpow_sub₀ two_ne_zero, zpow_natCast, zpow_natCast, unitsPerOne_eq,
      Nat.cast_pow, Nat.cast_ofNat]
  rw [toRat, scale, signedMagnitude, magnitude, Nat.pow_eq]
  cases x.isNegative
  · simp only [Bool.false_eq_true, ↓reduceIte]
    push_cast
    ring
  · simp only [↓reduceIte]
    push_cast
    ring

theorem isFinite_eq (x : Binary64) : x.isFinite = (!x.isNaN && !x.isInfinite) := by
  rw [Bool.eq_iff_iff, Bool.and_eq_true, Bool.not_eq_true', Bool.not_eq_true', isFinite, isNaN,
    isInfinite, decide_eq_true_eq, decide_eq_false_iff_not, decide_eq_false_iff_not, exponent]
  unfold infinitePattern exponentUnit
  omega

theorem isZero_iff : x.isZero = true ↔ x.magnitude = 0 := by
  have least : patternUnits 0 = 0 := by decide
  rw [isZero, decide_eq_true_eq, magnitude_eq, ← patternUnits_strictMono.injective.eq_iff, least]

theorem unitsPerOne_cast_pos : (0 : ℚ) < unitsPerOne := by
  exact_mod_cast unitsPerOne_pos

theorem isPositiveFinite_iff :
    x.isPositiveFinite = true ↔ x.isFinite = true ∧ 0 < x.toRat := by
  rw [toRat_eq, div_pos_iff_of_pos_right unitsPerOne_cast_pos, Int.cast_pos, isPositiveFinite]
  simp only [Bool.and_eq_true, Bool.not_eq_true', ← Bool.not_eq_true, isZero_iff, and_assoc]
  refine and_congr_right fun _ => ?_
  rw [signedMagnitude]
  split <;> simp [*]

theorem isNegative_of_isPositiveFinite (positive : x.isPositiveFinite = true) :
    x.isNegative = false := by
  simp only [isPositiveFinite, Bool.and_eq_true, Bool.not_eq_true'] at positive
  exact positive.1.2

theorem toRat_of_isPositiveFinite (positive : x.isPositiveFinite = true) :
    x.toRat = x.magnitude / unitsPerOne := by
  rw [toRat_eq, signedMagnitude, isNegative_of_isPositiveFinite positive,
    if_neg Bool.false_ne_true, Int.cast_natCast]

/-- Negative numbers have nothing above zero, so the floor among the natural numbers is zero. -/
theorem floorNat_eq_floor (finite : x.isFinite = true) : x.floorNat = ⌊x.toRat⌋₊ := by
  cases positive : x.isPositiveFinite with
  | true =>
      rw [floorNat_of_isPositiveFinite positive, toRat_of_isPositiveFinite positive,
        Nat.floor_div_eq_div]
  | false =>
      have below : x.toRat ≤ 0 := by
        rw [← not_lt]
        intro above
        rw [isPositiveFinite_iff.mpr ⟨finite, above⟩] at positive
        cases positive
      rw [Nat.floor_of_nonpos below, floorNat, positive]
      rfl

theorem floorNat_of_exception
    (other : (x.isNaN || x.isInfinite || x.isZero || x.isNegative) = true) : x.floorNat = 0 := by
  have not_positive : x.isPositiveFinite = false := by
    rw [isPositiveFinite, isFinite_eq]
    revert other
    cases x.isNaN <;> cases x.isInfinite <;> cases x.isZero <;> cases x.isNegative <;> decide
  rw [floorNat, not_positive]
  rfl

section Switch

theorem unsigned_lt_twoTo128_iff (positive : x.isPositiveFinite = true) :
    x.unsigned < twoTo128.unsigned ↔ x.toRat < 2 ^ 128 := by
  have units : patternUnits twoTo128.unsigned = 2 ^ 128 * unitsPerOne := by decide +kernel
  have whole : (2 : ℚ) ^ 128 * unitsPerOne = (2 ^ 128 * unitsPerOne : ℕ) := by
    rw [Nat.cast_mul, Nat.cast_pow, Nat.cast_ofNat]
  rw [toRat_of_isPositiveFinite positive, div_lt_iff₀ unitsPerOne_cast_pos, whole, Nat.cast_lt,
    ← patternUnits_strictMono.lt_iff_lt, units, magnitude_eq]

theorem exponentUnit_eq : exponentUnit = 2 ^ 52 := by decide

theorem floorNat_of_lt (positive : x.isPositiveFinite = true) (below : x.toRat < 2 ^ 128) :
    x.floorNat = x.wholeBelow128 ∧ x.floorNat < 2 ^ 128 := by
  obtain ⟨finite, above⟩ := isPositiveFinite_iff.mp positive
  constructor
  · rw [floorNat, if_pos positive, if_pos ((unsigned_lt_twoTo128_iff positive).mpr below)]
  · rw [floorNat_eq_floor finite, Nat.floor_lt (le_of_lt above)]
    exact_mod_cast below

/-- From 2^128 on the shift of the significand is to the left, and nothing is cut off. -/
theorem floorNat_of_ge (positive : x.isPositiveFinite = true) (large : 2 ^ 128 ≤ x.toRat) :
    1075 ≤ x.exponent ∧ x.floorNat = (2 ^ 52 + x.fraction) * 2 ^ (x.exponent - 1075) ∧
      (x.floorNat : ℚ) = x.toRat := by
  have from128 : ¬ x.unsigned < twoTo128.unsigned := by
    rwa [unsigned_lt_twoTo128_iff positive, not_lt]
  have exponents := le_exponent_of_from128 (Nat.not_lt.mp from128)
  have path : x.floorNat = x.wholeFrom128 := by
    rw [floorNat, if_pos positive, if_neg from128]
  have whole : x.floorNat = (2 ^ 52 + x.fraction) * 2 ^ (x.exponent - 1075) := by
    rw [path]
    unfold wholeFrom128
    rw [exponentUnit_eq]
    exact Nat.shiftLeft_eq _ _
  have normal : x.significand = 2 ^ 52 + x.fraction := by
    rw [significand, if_neg (by omega), exponentUnit_eq]
  refine ⟨exponents, whole, ?_⟩
  have scale : (max x.exponent 1 : ℤ) - 1075 = (x.exponent - 1075 : ℕ) := by omega
  rw [whole, toRat, isNegative_of_isPositiveFinite positive, normal, scale, zpow_natCast,
    if_neg Bool.false_ne_true, one_mul, Nat.cast_mul, Nat.cast_pow, Nat.cast_ofNat]

end Switch

section Unscaled

theorem ofParts_self (x : Binary64) : ofParts x.isNegative x.unsigned = x := by
  have small : x.unsigned < signUnit := Nat.mod_lt _ (by decide)
  have bits := x.bits.toNat_lt
  have same : (ofParts x.isNegative x.unsigned).bits.toNat = x.bits.toNat := by
    rw [toNat_ofParts small, isNegative, unsigned]
    simp only [decide_eq_true_eq]
    unfold signUnit
    split <;> omega
  cases x
  exact congrArg mk (UInt64.toNat_inj.mp same)

/-- A product with one is not rounded, so every double that is a number is the product of some amount
with a power of ten. -/
theorem mul_powerOfTen_zero (number : x.isNaN = false) : x.mul (powerOfTen 0) = x := by
  have one_eq : powerOfTen 0 = one := by decide +kernel
  have units : one.magnitude = unitsPerOne := by decide +kernel
  have positive : one.isNegative = false ∧ one.isNaN = false ∧ one.isInfinite = false ∧
      one.isZero = false := by decide
  rw [one_eq, mul]
  simp only [number, positive, units, Bool.bne_false, Bool.or_self, Bool.false_eq_true, ↓reduceIte]
  cases infinite : x.isInfinite with
  | true =>
      have pattern : x.unsigned = infinitePattern := of_decide_eq_true infinite
      have nonzero : x.isZero = false := by
        rw [isZero, pattern]
        decide
      simp only [Bool.or_false, nonzero, ↓reduceIte, Bool.false_eq_true]
      rw [infinity, ← pattern, ofParts_self]
  | false =>
      have bounded : x.unsigned ≤ infinitePattern :=
        Nat.not_lt.mp (of_decide_eq_false number)
      have nearest : nearestUnits (x.magnitude * unitsPerOne) unitsPerOne = x.unsigned :=
        nearestUnits_eq unitsPerOne_pos bounded (by rw [magnitude_eq])
      simp only [Bool.or_self, Bool.false_eq_true, ↓reduceIte]
      rw [roundUnits, nearest, ofParts_self]

end Unscaled

/-- The last double below 2^128 and 2^128 itself, which is the one nearest to the largest number of
128 bits. -/
example : (mk 0x47efffffffffffff).floorNat = 2 ^ 128 - 2 ^ 75 ∧ twoTo128.floorNat = 2 ^ 128 ∧
    ofNat (2 ^ 128 - 1) = twoTo128 := by
  decide +kernel

end Binary64

namespace TokenAmount

open Binary64

/-- The base units of a float are the floor of its product with the power of ten, and this step is
exact: below 2^128 the product is cut off behind the point and fits 128 bits, from there on its
significand is shifted to the left and nothing is lost. What is no positive number is worth nothing.
So a larger product never gives fewer units. -/
theorem ofFloat_takes_floor :
    (∀ amount decimals,
      (ofFloat amount decimals).units = (amount.mul (powerOfTen decimals)).floorNat) ∧
    -- Every double that is a number is such a product.
    (∀ x : Binary64, x.isNaN = false → x.mul (powerOfTen 0) = x) ∧
    (∀ x : Binary64, x.isFinite = true → 0 < x.toRat → x.floorNat = ⌊x.toRat⌋₊) ∧
    (∀ x : Binary64, x.isFinite = true → 0 < x.toRat → x.toRat < 2 ^ 128 →
      x.floorNat = x.wholeBelow128 ∧ x.floorNat < 2 ^ 128) ∧
    (∀ x : Binary64, x.isFinite = true → 2 ^ 128 ≤ x.toRat →
      1075 ≤ x.exponent ∧ x.floorNat = (2 ^ 52 + x.fraction) * 2 ^ (x.exponent - 1075) ∧
        (x.floorNat : ℚ) = x.toRat) ∧
    (∀ x : Binary64, (x.isNaN || x.isInfinite || x.isZero || x.isNegative) = true →
      x.floorNat = 0) ∧
    (∀ x y : Binary64, x.isFinite = true → y.isFinite = true → x.toRat ≤ y.toRat →
      x.floorNat ≤ y.floorNat) := by
  refine ⟨fun _ _ => rfl, fun _ => mul_powerOfTen_zero, fun _ finite _ => floorNat_eq_floor finite,
    ?_, ?_, fun _ => floorNat_of_exception, ?_⟩
  · intro x finite above below
    exact floorNat_of_lt (isPositiveFinite_iff.mpr ⟨finite, above⟩) below
  · intro x finite large
    have above : 0 < x.toRat := lt_of_lt_of_le (by norm_num) large
    exact floorNat_of_ge (isPositiveFinite_iff.mpr ⟨finite, above⟩) large
  · intro x y finite also le
    rw [floorNat_eq_floor finite, floorNat_eq_floor also]
    exact Nat.floor_mono le

end TokenAmount
end BridgeClient
