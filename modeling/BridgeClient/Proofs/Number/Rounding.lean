import BridgeClient.Number.Binary64
import Mathlib.Algebra.Order.Ring.Nat
import Mathlib.Order.Monotone.Basic
import Mathlib.Tactic.Ring

set_option autoImplicit false

/-!
Rounding to the nearest double. Unsigned patterns stand in the order of what they stand for, and
neighbouring patterns are neighbouring doubles, so a quotient is rounded to a pattern or a smaller one
exactly when it is below the midpoint between that pattern and the next, or at it and the pattern is
even. All else that is used about rounding follows from this.
-/
namespace BridgeClient.Binary64

/-- What an unsigned pattern stands for, in units of 2^-1074. From the pattern of infinity on they go
on as if there were more exponents. -/
def patternUnits (pattern : Nat) : Nat :=
  (if pattern / exponentUnit = 0 then pattern % exponentUnit
    else exponentUnit + pattern % exponentUnit) * 2 ^ (pattern / exponentUnit - 1)

theorem magnitude_eq (x : Binary64) : x.magnitude = patternUnits x.unsigned := by
  rw [magnitude, Nat.pow_eq]
  rfl

/-- A pattern is a significand of at most 53 bits put on top of a shift, which shows that a significand
rounded up to 2^53 runs over into the next exponent as it should. -/
theorem patternUnits_frame {shift significand : Nat} (le : significand ≤ 2 * exponentUnit)
    (normal : shift = 0 ∨ exponentUnit ≤ significand) :
    patternUnits (shift * exponentUnit + significand) = significand * 2 ^ shift := by
  have positive : 0 < exponentUnit := by decide
  rcases Nat.lt_or_ge significand exponentUnit with small | large
  · have unshifted : shift = 0 := by omega
    subst unshifted
    have quotient : (0 * exponentUnit + significand) / exponentUnit = 0 :=
      Nat.div_eq_of_lt (by omega)
    have rest : (0 * exponentUnit + significand) % exponentUnit = significand := by
      rw [Nat.zero_mul, Nat.zero_add, Nat.mod_eq_of_lt small]
    rw [patternUnits, quotient, rest, if_pos rfl]
  · rcases Nat.lt_or_ge significand (2 * exponentUnit) with below | full
    · obtain ⟨fraction, rfl⟩ := Nat.exists_eq_add_of_le large
      have split : shift * exponentUnit + (exponentUnit + fraction) =
          fraction + exponentUnit * (shift + 1) := by ring
      have quotient : (fraction + exponentUnit * (shift + 1)) / exponentUnit = shift + 1 := by
        rw [Nat.add_mul_div_left _ _ positive, Nat.div_eq_of_lt (by omega), Nat.zero_add]
      have rest : (fraction + exponentUnit * (shift + 1)) % exponentUnit = fraction := by
        rw [Nat.add_mul_mod_self_left, Nat.mod_eq_of_lt (by omega)]
      rw [split, patternUnits, quotient, rest, if_neg (by omega), Nat.add_sub_cancel]
    · obtain rfl : significand = 2 * exponentUnit := by omega
      have split : shift * exponentUnit + 2 * exponentUnit = exponentUnit * (shift + 2) := by ring
      have quotient : exponentUnit * (shift + 2) / exponentUnit = shift + 2 :=
        Nat.mul_div_cancel_left _ positive
      have rest : exponentUnit * (shift + 2) % exponentUnit = 0 := Nat.mul_mod_right _ _
      rw [split, patternUnits, quotient, rest, if_neg (by omega), Nat.add_zero]
      have exponents : shift + 2 - 1 = shift + 1 := by omega
      rw [exponents, Nat.pow_succ]
      ring

theorem exists_frame (pattern : Nat) :
    ∃ shift significand, pattern = shift * exponentUnit + significand ∧
      significand < 2 * exponentUnit ∧ (shift = 0 ∨ exponentUnit ≤ significand) := by
  refine ⟨pattern / exponentUnit - 1,
    pattern - (pattern / exponentUnit - 1) * exponentUnit, ?_⟩
  unfold exponentUnit
  omega

theorem patternUnits_lt_succ (pattern : Nat) : patternUnits pattern < patternUnits (pattern + 1) := by
  obtain ⟨shift, significand, rfl, lt, normal⟩ := exists_frame pattern
  have next : shift = 0 ∨ exponentUnit ≤ significand + 1 := by omega
  rw [Nat.add_assoc, patternUnits_frame (Nat.le_of_lt lt) normal, patternUnits_frame lt next]
  exact Nat.mul_lt_mul_of_pos_right (Nat.lt_succ_self _) (Nat.two_pow_pos _)

theorem patternUnits_strictMono : StrictMono patternUnits :=
  strictMono_nat_of_lt_succ patternUnits_lt_succ

/-- Every number of at most 53 bits is a double, times any power of two. -/
theorem exists_patternUnits_eq {significand : Nat} (le : significand ≤ 2 * exponentUnit)
    (shift : Nat) : ∃ pattern, patternUnits pattern = significand * 2 ^ shift := by
  induction shift generalizing significand with
  | zero => exact ⟨0 * exponentUnit + significand, patternUnits_frame le (Or.inl rfl)⟩
  | succ shift ih =>
      rcases Nat.lt_or_ge significand exponentUnit with small | large
      · have fits : 2 * significand ≤ 2 * exponentUnit := by omega
        obtain ⟨pattern, same⟩ := ih fits
        refine ⟨pattern, ?_⟩
        rw [same, Nat.pow_succ]
        ring
      · exact ⟨_, patternUnits_frame le (Or.inr large)⟩

/-- Rounding a quotient to a whole number: at most `n` below `n + 1/2`, and there when `n` is even. -/
theorem roundHalfEven_le_iff {num den : Nat} (positive : 0 < den) (n : Nat) :
    roundHalfEven num den ≤ n ↔
      2 * num < (2 * n + 1) * den ∨ 2 * num = (2 * n + 1) * den ∧ n % 2 = 0 := by
  have split := Nat.div_add_mod num den
  have rest := Nat.mod_lt num positive
  have middle : (2 * n + 1) * den = 2 * (den * n) + den := by ring
  rw [roundHalfEven, middle]
  generalize num / den = quotient at *
  generalize num % den = remainder at *
  subst split
  rcases Nat.lt_trichotomy quotient n with less | rfl | more
  · have step : den * (quotient + 1) ≤ den * n := Nat.mul_le_mul_left den less
    rw [Nat.mul_succ] at step
    have below : 2 * (den * quotient + remainder) < 2 * (den * n) + den := by omega
    simp only [below, true_or, iff_true]
    split <;> [skip; split] <;> omega
  · split <;> [skip; split] <;> omega
  · have step : den * (n + 1) ≤ den * quotient := Nat.mul_le_mul_left den more
    rw [Nat.mul_succ] at step
    split <;> [skip; split] <;> omega

theorem roundHalfEven_mul_right (num den : Nat) {factor : Nat} (positive : 0 < factor) :
    roundHalfEven (num * factor) (den * factor) = roundHalfEven num den := by
  have quotient : num * factor / (den * factor) = num / den :=
    Nat.mul_div_mul_right num den positive
  have rest : 2 * (num * factor % (den * factor)) = 2 * (num % den) * factor := by
    rw [Nat.mul_mod_mul_right, Nat.mul_assoc]
  simp only [roundHalfEven, quotient, rest, Nat.mul_lt_mul_right positive]

theorem nearestUnits_mul_right (num den : Nat) {factor : Nat} (positive : 0 < factor) :
    nearestUnits (num * factor) (den * factor) = nearestUnits num den := by
  have scaled (power : Nat) : den * factor * power = den * power * factor := by ring
  simp only [nearestUnits, Nat.mul_div_mul_right num den positive, scaled,
    roundHalfEven_mul_right _ _ positive]

/-- The shift that rounding takes: what is left of a quotient has at most 53 bits, and no fewer if
anything was shifted out. -/
theorem exists_shift (num : Nat) {den : Nat} (positive : 0 < den) :
    ∃ shift, nearestUnits num den =
        min (shift * exponentUnit + roundHalfEven num (den * 2 ^ shift)) infinitePattern ∧
      num < 2 * exponentUnit * (den * 2 ^ shift) ∧
      (shift = 0 ∨ exponentUnit * (den * 2 ^ shift) ≤ num) := by
  refine ⟨Nat.log2 (num / den) - 52, ?_, ?_, ?_⟩
  · rw [nearestUnits, Nat.pow_eq]
  · have bits : num / den < 2 ^ (Nat.log2 (num / den) + 1) := Nat.lt_log2_self
    have more : 2 ^ (Nat.log2 (num / den) + 1) ≤ 2 ^ (53 + (Nat.log2 (num / den) - 52)) :=
      Nat.pow_le_pow_right (by decide) (by omega)
    have lt : num < 2 ^ (53 + (Nat.log2 (num / den) - 52)) * den :=
      (Nat.div_lt_iff_lt_mul positive).mp (Nat.lt_of_lt_of_le bits more)
    calc num < 2 ^ (53 + (Nat.log2 (num / den) - 52)) * den := lt
      _ = 2 * exponentUnit * (den * 2 ^ (Nat.log2 (num / den) - 52)) := by
        rw [Nat.pow_add, exponentUnit]
        ring
  · rcases Nat.lt_or_ge 52 (Nat.log2 (num / den)) with large | small
    · have nonzero : num / den ≠ 0 := by
        intro zero
        rw [zero] at large
        exact absurd large (by decide)
      have bits : 2 ^ Nat.log2 (num / den) ≤ num / den := Nat.log2_self_le nonzero
      have le : 2 ^ Nat.log2 (num / den) * den ≤ num := (Nat.le_div_iff_mul_le positive).mp bits
      refine Or.inr (Nat.le_trans (Nat.le_of_eq ?_) le)
      have exponents : Nat.log2 (num / den) = 52 + (Nat.log2 (num / den) - 52) := by omega
      rw [exponents, Nat.add_sub_cancel_left, Nat.pow_add, exponentUnit]
      ring
    · exact Or.inl (by omega)

theorem le_roundHalfEven {num den n : Nat} (positive : 0 < den) (le : n * den ≤ num) :
    n ≤ roundHalfEven num den := by
  have floor : n ≤ num / den := (Nat.le_div_iff_mul_le positive).mpr le
  rw [roundHalfEven]
  split <;> [skip; split] <;> omega

theorem roundHalfEven_le {num den n : Nat} (positive : 0 < den) (le : num ≤ n * den) :
    roundHalfEven num den ≤ n := by
  rw [roundHalfEven_le_iff positive]
  have middle : (2 * n + 1) * den = 2 * (n * den) + den := by ring
  omega

/-- Rounding to the nearest double: to a pattern or a smaller one below the midpoint to the next
pattern, and at it when the pattern is even. -/
theorem nearestUnits_le_iff {num den pattern : Nat} (positive : 0 < den)
    (finite : pattern < infinitePattern) :
    nearestUnits num den ≤ pattern ↔
      2 * num < (patternUnits pattern + patternUnits (pattern + 1)) * den ∨
        2 * num = (patternUnits pattern + patternUnits (pattern + 1)) * den ∧ pattern % 2 = 0 := by
  obtain ⟨shift, nearest, below, above⟩ := exists_shift num positive
  obtain ⟨place, significand, rfl, lt, normal⟩ := exists_frame pattern
  have scaled : 0 < den * 2 ^ shift := Nat.mul_pos positive (Nat.two_pow_pos _)
  have small : roundHalfEven num (den * 2 ^ shift) ≤ 2 * exponentUnit :=
    roundHalfEven_le scaled (Nat.le_of_lt below)
  -- The sum of the two neighbours, which is twice their midpoint.
  have neighbours : patternUnits (place * exponentUnit + significand) +
      patternUnits (place * exponentUnit + significand + 1) =
        (2 * significand + 1) * 2 ^ place := by
    have next : place = 0 ∨ exponentUnit ≤ significand + 1 := by omega
    rw [Nat.add_assoc, patternUnits_frame (Nat.le_of_lt lt) normal, patternUnits_frame lt next,
      Nat.succ_eq_add_one]
    ring
  have parity : (place * exponentUnit + significand) % 2 = significand % 2 := by
    unfold exponentUnit
    omega
  have uncapped : nearestUnits num den ≤ place * exponentUnit + significand ↔
      shift * exponentUnit + roundHalfEven num (den * 2 ^ shift) ≤
        place * exponentUnit + significand := by
    rw [nearest]
    omega
  rw [uncapped, neighbours, parity]
  rcases Nat.lt_trichotomy place shift with lower | rfl | higher
  · -- The quotient has larger exponents than the pattern.
    have large : exponentUnit * (den * 2 ^ shift) ≤ num := above.resolve_left (by omega)
    have least : exponentUnit ≤ roundHalfEven num (den * 2 ^ shift) :=
      le_roundHalfEven scaled large
    have past : ¬ shift * exponentUnit + roundHalfEven num (den * 2 ^ shift) ≤
        place * exponentUnit + significand := by
      unfold exponentUnit at *
      omega
    have exponents : 2 ^ place * 2 ≤ 2 ^ shift := by
      rw [← Nat.pow_succ]
      exact Nat.pow_le_pow_right (by decide) lower
    have beyond : (2 * significand + 1) * 2 ^ place * den < 2 * num :=
      calc (2 * significand + 1) * 2 ^ place * den
          < 4 * exponentUnit * 2 ^ place * den := by
            apply Nat.mul_lt_mul_of_pos_right _ positive
            exact Nat.mul_lt_mul_of_pos_right (by omega) (Nat.two_pow_pos _)
        _ = 2 * (exponentUnit * (den * (2 ^ place * 2))) := by ring
        _ ≤ 2 * (exponentUnit * (den * 2 ^ shift)) := by
            apply Nat.mul_le_mul_left
            apply Nat.mul_le_mul_left
            exact Nat.mul_le_mul_left den exponents
        _ ≤ 2 * num := Nat.mul_le_mul_left 2 large
    simp only [past, false_iff, not_or]
    omega
  · -- Both are multiples of one power of two.
    have same : (2 * significand + 1) * 2 ^ place * den =
        (2 * significand + 1) * (den * 2 ^ place) := by ring
    rw [Nat.add_le_add_iff_left, roundHalfEven_le_iff scaled, same]
  · -- The quotient has smaller exponents than the pattern.
    have full : exponentUnit ≤ significand := normal.resolve_left (by omega)
    have within : shift * exponentUnit + roundHalfEven num (den * 2 ^ shift) ≤
        place * exponentUnit + significand := by
      unfold exponentUnit at *
      omega
    have exponents : 2 ^ shift * 2 ≤ 2 ^ place := by
      rw [← Nat.pow_succ]
      exact Nat.pow_le_pow_right (by decide) higher
    have beneath : 2 * num < (2 * significand + 1) * 2 ^ place * den :=
      calc 2 * num < 2 * (2 * exponentUnit * (den * 2 ^ shift)) := by omega
        _ = 2 * exponentUnit * (2 ^ shift * 2) * den := by ring
        _ ≤ 2 * exponentUnit * 2 ^ place * den := by
            apply Nat.mul_le_mul_right
            exact Nat.mul_le_mul_left _ exponents
        _ ≤ (2 * significand + 1) * 2 ^ place * den := by
            apply Nat.mul_le_mul_right
            exact Nat.mul_le_mul_right _ (by omega)
    simp only [within, beneath, true_or]

/-- A double that a quotient does not exceed is not exceeded by what it is rounded to. -/
theorem nearestUnits_le {num den pattern : Nat} (positive : 0 < den)
    (le : num ≤ patternUnits pattern * den) : nearestUnits num den ≤ pattern := by
  rcases Nat.lt_or_ge pattern infinitePattern with finite | infinite
  · rw [nearestUnits_le_iff positive finite]
    left
    have step := Nat.mul_lt_mul_of_pos_right (patternUnits_lt_succ pattern) positive
    rw [Nat.add_mul]
    omega
  · exact Nat.le_trans (Nat.min_le_right _ _) infinite

/-- A double that does not exceed a quotient does not exceed what it is rounded to. -/
theorem le_nearestUnits {num den pattern : Nat} (positive : 0 < den)
    (finite : pattern ≤ infinitePattern) (le : patternUnits pattern * den ≤ num) :
    pattern ≤ nearestUnits num den := by
  cases pattern with
  | zero => exact Nat.zero_le _
  | succ previous =>
      by_contra below
      have under : nearestUnits num den ≤ previous := by omega
      rw [nearestUnits_le_iff positive finite] at under
      have step := Nat.mul_lt_mul_of_pos_right (patternUnits_lt_succ previous) positive
      rw [Nat.add_mul] at under
      omega

/-- Rounding a quotient to a whole number moves it by half of one at most. -/
theorem roundHalfEven_near {num den : Nat} (positive : 0 < den) :
    2 * num ≤ 2 * (roundHalfEven num den * den) + den ∧
      2 * (roundHalfEven num den * den) ≤ 2 * num + den := by
  generalize rounded : roundHalfEven num den = whole
  constructor
  · have upper := (roundHalfEven_le_iff positive whole).mp (Nat.le_of_eq rounded)
    have middle : (2 * whole + 1) * den = 2 * (whole * den) + den := by ring
    omega
  · cases whole with
    | zero => omega
    | succ less =>
        have lower : ¬ roundHalfEven num den ≤ less := by omega
        rw [roundHalfEven_le_iff positive] at lower
        have middle : (2 * less + 1) * den = 2 * (less * den) + den := by ring
        have whole : (less + 1) * den = less * den + den := Nat.succ_mul less den
        omega

/-- Rounding a quotient above the subnormal numbers moves it by one part in 2^53 at most. -/
theorem nearestUnits_near {num den : Nat} (positive : 0 < den)
    (normal : exponentUnit * den ≤ num) (finite : nearestUnits num den < infinitePattern) :
    2 * exponentUnit * num ≤
        2 * exponentUnit * (patternUnits (nearestUnits num den) * den) + num ∧
      2 * exponentUnit * (patternUnits (nearestUnits num den) * den) ≤
        2 * exponentUnit * num + num := by
  obtain ⟨shift, nearest, below, above⟩ := exists_shift num positive
  have scaled : 0 < den * 2 ^ shift := Nat.mul_pos positive (Nat.two_pow_pos _)
  have uncapped : nearestUnits num den =
      shift * exponentUnit + roundHalfEven num (den * 2 ^ shift) := by omega
  have large : exponentUnit * (den * 2 ^ shift) ≤ num := by
    rcases above with rfl | above
    · rwa [Nat.pow_zero, Nat.mul_one]
    · exact above
  have units : patternUnits (nearestUnits num den) * den =
      roundHalfEven num (den * 2 ^ shift) * (den * 2 ^ shift) := by
    rw [uncapped, patternUnits_frame (roundHalfEven_le scaled (Nat.le_of_lt below))
      (Or.inr (le_roundHalfEven scaled large))]
    ring
  have near := @roundHalfEven_near num _ scaled
  rw [units]
  unfold exponentUnit at *
  omega

/-- A quotient that is a double is not rounded. -/
theorem nearestUnits_eq {num den pattern : Nat} (positive : 0 < den)
    (finite : pattern ≤ infinitePattern) (same : patternUnits pattern * den = num) :
    nearestUnits num den = pattern :=
  Nat.le_antisymm (nearestUnits_le positive (Nat.le_of_eq same.symm))
    (le_nearestUnits positive finite (Nat.le_of_eq same))

end BridgeClient.Binary64
