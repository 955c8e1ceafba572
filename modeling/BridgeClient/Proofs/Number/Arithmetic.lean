import BridgeClient.Proofs.Number.Rounding

set_option autoImplicit false

/-!
Arithmetic on doubles that stand for known numbers. A product or a quotient is the nearest double to
the exact result, so it is exact where that is a double; whole numbers up to 2^53 and the powers of
ten up to 10^22 are. The whole part of a double is that of the number it stands for.
-/
namespace BridgeClient.Binary64

theorem unitsPerOne_eq : unitsPerOne = 2 ^ 1074 := by decide +kernel

theorem unitsPerOne_pos : 0 < unitsPerOne := by decide +kernel

theorem patternUnits_infinite : patternUnits infinitePattern = 2 ^ 1024 * unitsPerOne := by
  decide +kernel

section Parts

variable {negative : Bool} {unsigned : Nat}

theorem toNat_ofParts (lt : unsigned < signUnit) :
    (ofParts negative unsigned).bits.toNat = (if negative then signUnit else 0) + unsigned := by
  rw [ofParts, UInt64.toNat_ofNat']
  apply Nat.mod_eq_of_lt
  unfold signUnit at *
  split <;> omega

theorem unsigned_ofParts (lt : unsigned < signUnit) :
    (ofParts negative unsigned).unsigned = unsigned := by
  rw [Binary64.unsigned, toNat_ofParts lt]
  unfold signUnit at *
  split <;> omega

theorem isNegative_ofParts (lt : unsigned < signUnit) :
    (ofParts negative unsigned).isNegative = negative := by
  rw [isNegative, toNat_ofParts lt]
  unfold signUnit at *
  cases negative
  · simp only [Bool.false_eq_true, ↓reduceIte, decide_eq_false_iff_not]
    omega
  · simp only [↓reduceIte, decide_eq_true_eq]
    omega

theorem nearestUnits_lt_signUnit (num den : Nat) : nearestUnits num den < signUnit :=
  Nat.lt_of_le_of_lt (Nat.min_le_right _ _) (by decide)

end Parts

/-- A finite double from zero on, and the units of 2^-1074 that it stands for. -/
structure Stands (x : Binary64) (units : Nat) : Prop where
  isNegative : x.isNegative = false
  finite : x.unsigned < infinitePattern
  units_eq : patternUnits x.unsigned = units

namespace Stands

variable {x : Binary64} {units : Nat}

theorem magnitude_eq (stands : x.Stands units) : x.magnitude = units := by
  rw [Binary64.magnitude_eq, stands.units_eq]

theorem isNaN (stands : x.Stands units) : x.isNaN = false :=
  decide_eq_false (Nat.not_lt.mpr (Nat.le_of_lt stands.finite))

theorem isInfinite (stands : x.Stands units) : x.isInfinite = false :=
  decide_eq_false (Nat.ne_of_lt stands.finite)

theorem isFinite (stands : x.Stands units) : x.isFinite = true := by
  have finite := stands.finite
  apply decide_eq_true
  unfold exponent
  unfold infinitePattern exponentUnit at *
  omega

theorem isZero (stands : x.Stands units) (positive : 0 < units) : x.isZero = false := by
  apply decide_eq_false
  intro zero
  have none_left := stands.units_eq
  rw [zero] at none_left
  exact absurd none_left.symm (Nat.ne_of_gt positive)

end Stands

/-- What is rounded stays finite below 2^1024. -/
theorem stands_roundUnits {num den : Nat} (finite : nearestUnits num den < infinitePattern) :
    (roundUnits false num den).Stands (patternUnits (nearestUnits num den)) where
  isNegative := isNegative_ofParts (nearestUnits_lt_signUnit num den)
  finite := by rwa [roundUnits, unsigned_ofParts (nearestUnits_lt_signUnit num den)]
  units_eq := by rw [roundUnits, unsigned_ofParts (nearestUnits_lt_signUnit num den)]

theorem stands_of_exact {num den pattern : Nat} (positive : 0 < den)
    (finite : pattern < infinitePattern) (same : patternUnits pattern * den = num) :
    (roundUnits false num den).Stands (patternUnits pattern) := by
  have exact_ : nearestUnits num den = pattern :=
    nearestUnits_eq positive (Nat.le_of_lt finite) same
  have stands := @stands_roundUnits num den (exact_ ▸ finite)
  rwa [exact_] at stands

section Operations

variable {x y : Binary64} {units others : Nat}

theorem mul_eq (stands : x.Stands units) (also : y.Stands others) :
    x.mul y = roundUnits false (units * others) unitsPerOne := by
  simp only [mul, stands.isNaN, also.isNaN, stands.isInfinite, also.isInfinite,
    stands.isNegative, also.isNegative, stands.magnitude_eq, also.magnitude_eq, Bool.or_self,
    bne_self_eq_false, Bool.false_eq_true, ↓reduceIte]

theorem div_eq (stands : x.Stands units) (also : y.Stands others) (positive : 0 < others) :
    x.div y = roundUnits false (units * unitsPerOne) others := by
  simp only [div, stands.isNaN, also.isNaN, stands.isInfinite, also.isInfinite,
    stands.isNegative, also.isNegative, also.isZero positive, stands.magnitude_eq,
    also.magnitude_eq, Bool.or_self, bne_self_eq_false, Bool.false_eq_true, ↓reduceIte]

end Operations

/-- A whole number that is a double: at most 53 bits times a power of two. -/
def Representable (n : Nat) : Prop :=
  ∃ significand shift, n = significand * 2 ^ shift ∧ significand ≤ 2 * exponentUnit ∧ n < 2 ^ 1024

theorem exists_pattern {n : Nat} (representable : Representable n) :
    ∃ pattern, pattern < infinitePattern ∧ patternUnits pattern = n * unitsPerOne := by
  obtain ⟨significand, shift, rfl, le, small⟩ := representable
  obtain ⟨exponent, one_eq⟩ : ∃ exponent, unitsPerOne = 2 ^ exponent := ⟨1074, unitsPerOne_eq⟩
  obtain ⟨pattern, same⟩ := exists_patternUnits_eq le (shift + exponent)
  have units : patternUnits pattern = significand * 2 ^ shift * unitsPerOne := by
    rw [same, one_eq, Nat.pow_add, Nat.mul_assoc]
  refine ⟨pattern, ?_, units⟩
  rw [← patternUnits_strictMono.lt_iff_lt, units, patternUnits_infinite]
  exact Nat.mul_lt_mul_of_pos_right small unitsPerOne_pos

theorem representable_of_le {n : Nat} (le : n ≤ 2 * exponentUnit) : Representable n := by
  refine ⟨n, 0, (Nat.mul_one n).symm, le, Nat.lt_of_le_of_lt le ?_⟩
  decide +kernel

/-- 10^n is 5^n, which has at most 53 bits up to n = 22, with n bits behind it. -/
theorem representable_ten_pow {n : Nat} (le : n ≤ 22) : Representable (10 ^ n) := by
  have five : 5 ^ n ≤ 5 ^ 22 := Nat.pow_le_pow_right (by decide) le
  have ten : 10 ^ n ≤ 10 ^ 22 := Nat.pow_le_pow_right (by decide) le
  refine ⟨5 ^ n, n, ?_, Nat.le_trans five (by decide), Nat.lt_of_le_of_lt ten ?_⟩
  · rw [← Nat.mul_pow]
  · decide +kernel

theorem ofNat_stands {n : Nat} (representable : Representable n) :
    (ofNat n).Stands (n * unitsPerOne) := by
  obtain ⟨pattern, finite, units⟩ := exists_pattern representable
  rw [← units]
  exact stands_of_exact (by decide) finite (by rw [units, Nat.mul_one])

/-- A product of whole numbers that is a double is not rounded. -/
theorem mul_stands {x y : Binary64} {m n : Nat} (stands : x.Stands (m * unitsPerOne))
    (also : y.Stands (n * unitsPerOne)) (representable : Representable (m * n)) :
    (x.mul y).Stands (m * n * unitsPerOne) := by
  obtain ⟨pattern, finite, units⟩ := exists_pattern representable
  rw [mul_eq stands also, ← units]
  apply stands_of_exact unitsPerOne_pos finite
  rw [units]
  ring

/-- The powers of ten that repeated squaring goes through up to 10^22 are all doubles. -/
theorem powerLoop_stands {result base : Binary64} {m n : Nat} (count : Nat)
    (stands : result.Stands (10 ^ m * unitsPerOne)) (also : base.Stands (10 ^ n * unitsPerOne))
    (le : m + n * count ≤ 22) :
    (powerLoop result base count).Stands (10 ^ (m + n * count) * unitsPerOne) := by
  induction count using Nat.strongRecOn generalizing result base m n with
  | _ count ih =>
      rw [powerLoop]
      -- The digit that is read multiplies in the base, or nothing.
      have digit : (if count % 2 = 1 then result.mul base else result).Stands
          (10 ^ (m + n * (count % 2)) * unitsPerOne) := by
        rcases Nat.mod_two_eq_zero_or_one count with even | odd
        · rw [if_neg (by omega), even, Nat.mul_zero, Nat.add_zero]
          exact stands
        · have most : m + n ≤ 22 := by
            have once : n * 1 ≤ n * count := Nat.mul_le_mul_left n (by omega)
            omega
          rw [if_pos odd, odd, Nat.mul_one, Nat.pow_add]
          apply mul_stands stands also
          rw [← Nat.pow_add]
          exact representable_ten_pow most
      have split : m + n * count = m + n * (count % 2) + (n + n) * (count / 2) := by
        have halves := Nat.mod_add_div count 2
        calc m + n * count = m + n * (count % 2 + 2 * (count / 2)) := by rw [halves]
          _ = m + n * (count % 2) + (n + n) * (count / 2) := by ring
      by_cases last : count / 2 = 0
      · rw [if_pos last, split, last, Nat.mul_zero, Nat.add_zero]
        exact digit
      · rw [if_neg last, split]
        have most : n + n ≤ 22 := by
          have once : (n + n) * 1 ≤ (n + n) * (count / 2) :=
            Nat.mul_le_mul_left (n + n) (by omega)
          omega
        have squared : (base.mul base).Stands (10 ^ (n + n) * unitsPerOne) := by
          rw [Nat.pow_add]
          apply mul_stands also also
          rw [← Nat.pow_add]
          exact representable_ten_pow most
        exact ih (count / 2) (by omega) digit squared (split ▸ le)

theorem powerOfTen_stands {decimals : UInt32} (le : decimals.toNat ≤ 22) :
    (powerOfTen decimals).Stands (10 ^ decimals.toNat * unitsPerOne) := by
  have signed : decimals.toInt32.toInt = decimals.toNat := by
    rw [← Int32.toInt_toBitVec, UInt32.toBitVec_toInt32, BitVec.toInt_eq_toNat_of_lt]
    · rfl
    · rw [UInt32.toNat_toBitVec]
      omega
  have one_stands : one.Stands (10 ^ 0 * unitsPerOne) :=
    ⟨by decide, by decide, by decide +kernel⟩
  have ten_stands : ten.Stands (10 ^ 1 * unitsPerOne) :=
    ⟨by decide, by decide, by decide +kernel⟩
  have stands := powerLoop_stands decimals.toNat one_stands ten_stands (by omega)
  rw [powerOfTen, powi, signed, Int.natAbs_natCast, if_neg (by omega)]
  rwa [Nat.zero_add, Nat.one_mul] at stands

theorem units_div_of_lt {exponent : Nat} (significand : Nat) (lt : exponent < 1075) :
    significand * 2 ^ (exponent - 1) / unitsPerOne = significand >>> (1075 - max exponent 1) := by
  have split : unitsPerOne = 2 ^ (1075 - max exponent 1) * 2 ^ (exponent - 1) := by
    rw [unitsPerOne_eq, ← Nat.pow_add]
    congr 1
    omega
  rw [split, Nat.mul_div_mul_right _ _ (Nat.two_pow_pos _), Nat.shiftRight_eq_div_pow]

theorem units_div_of_le {exponent : Nat} (significand : Nat) (le : 1075 ≤ exponent) :
    significand * 2 ^ (exponent - 1) / unitsPerOne = significand <<< (exponent - 1075) := by
  have split : 2 ^ (exponent - 1) = 2 ^ (exponent - 1075) * unitsPerOne := by
    rw [unitsPerOne_eq, ← Nat.pow_add]
    congr 1
    omega
  rw [split, ← Nat.mul_assoc, Nat.mul_div_cancel _ unitsPerOne_pos, Nat.shiftLeft_eq]

/-- From 2^128 on nothing of a significand lies behind the point. -/
theorem le_exponent_of_from128 {x : Binary64} (large : twoTo128.unsigned ≤ x.unsigned) :
    1075 ≤ x.exponent := by
  have from128 : twoTo128.unsigned = 1151 * exponentUnit := by decide +kernel
  have from1151 : 1151 ≤ x.unsigned / exponentUnit := by
    rw [from128] at large
    exact (Nat.le_div_iff_mul_le (by decide)).mpr large
  exact Nat.le_trans (by decide) from1151

/-- Below 2^128 and from there on, what is shifted out of the significand lies behind the point. -/
theorem floorNat_of_isPositiveFinite {x : Binary64} (positive : x.isPositiveFinite = true) :
    x.floorNat = x.magnitude / unitsPerOne := by
  have units : x.magnitude = x.significand * 2 ^ (x.exponent - 1) := by
    rw [magnitude, Nat.pow_eq]
  rw [floorNat, if_pos positive, units]
  split
  · rw [wholeBelow128]
    split
    · rename_i small
      exact (units_div_of_lt _ small).symm
    · rename_i large
      exact (units_div_of_le _ (Nat.not_lt.mp large)).symm
  · rename_i large
    have exponents : 1075 ≤ x.exponent := le_exponent_of_from128 (Nat.not_lt.mp large)
    have nonzero : x.exponent ≠ 0 := Nat.ne_of_gt (Nat.lt_of_lt_of_le (by decide) exponents)
    have normal : x.significand = exponentUnit + x.fraction := if_neg nonzero
    have whole : x.wholeFrom128 = x.significand <<< (x.exponent - 1075) :=
      congrArg (fun significand => significand <<< (x.exponent - 1075)) normal.symm
    exact whole.trans (units_div_of_le _ exponents).symm

theorem floorNat_of_stands {x : Binary64} {units : Nat} (stands : x.Stands units) :
    x.floorNat = units / unitsPerOne := by
  rcases Nat.eq_zero_or_pos units with rfl | positive
  · have zero : x.isZero = true := by
      apply decide_eq_true
      have least : patternUnits 0 = 0 := by decide
      have none_left := stands.units_eq
      rw [← least] at none_left
      exact patternUnits_strictMono.injective none_left
    have not_positive : x.isPositiveFinite = false := by
      rw [isPositiveFinite, zero, Bool.not_true, Bool.and_false]
    rw [floorNat, not_positive, Nat.zero_div]
    rfl
  · have positiveFinite : x.isPositiveFinite = true := by
      rw [isPositiveFinite, stands.isFinite, stands.isNegative, stands.isZero positive]
      rfl
    rw [floorNat_of_isPositiveFinite positiveFinite, stands.magnitude_eq]

/-- The double next to one above zero, on the side of zero. -/
def below (x : Binary64) : Binary64 := ofParts false (x.unsigned - 1)

/-- Exactly so many units of 2^-1074 are rounded to `x` or above it: they are past the midpoint between
`x` and the double below it, or at it and the pattern of `x` is even. -/
def Reaches (units : Nat) (x : Binary64) : Prop :=
  x.below.magnitude + x.magnitude < 2 * units ∨
    x.below.magnitude + x.magnitude = 2 * units ∧ x.unsigned % 2 = 0

instance (units : Nat) (x : Binary64) : Decidable (Reaches units x) :=
  inferInstanceAs (Decidable (_ ∨ _))

theorem reaches_iff {x : Binary64} (finite : x.unsigned < infinitePattern) (units : Nat) :
    Reaches units x ↔ x.unsigned ≤ nearestUnits units 1 := by
  have below_units : x.below.magnitude = patternUnits (x.unsigned - 1) := by
    have lt : x.unsigned - 1 < signUnit := Nat.lt_of_le_of_lt (Nat.sub_le _ 1)
      (Nat.lt_trans finite (by decide))
    rw [magnitude_eq, below, unsigned_ofParts lt]
  rw [Reaches, below_units, magnitude_eq]
  generalize x.unsigned = pattern at *
  cases pattern with
  | zero =>
      have least : patternUnits 0 = 0 := by decide
      rw [Nat.zero_sub, least]
      omega
  | succ previous =>
      have le_iff := @nearestUnits_le_iff units 1 _ Nat.one_pos (Nat.lt_of_succ_lt finite)
      rw [Nat.mul_one] at le_iff
      rw [Nat.add_sub_cancel]
      omega

end BridgeClient.Binary64
