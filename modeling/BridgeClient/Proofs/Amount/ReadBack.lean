import BridgeClient.Proofs.Number.Arithmetic
import BridgeClient.Wire.Builder

set_option autoImplicit false

/-!
A mint on the ledger carries its base units as a double, divided by a power of ten; whoever receives
it multiplies them out again and cuts off what lies behind the point. Both steps round. Below 2^53
units this never costs or creates more than one unit, but it does cost one whenever the double falls
short of the exact quotient by enough for the product to stay below the whole number.
-/
namespace BridgeClient

open Binary64

namespace TokenAmount

variable {units : Nat} {decimals : Decimals} {carried : Binary64} {size : Nat}

/-- The double that carries some units is the nearest to their exact quotient. -/
theorem toFloat_stands (small : units ≤ 2 * exponentUnit) (digits : decimals.toNat ≤ 22) :
    ∃ size, ((mk units).toFloat decimals).Stands size ∧
      units * unitsPerOne ≤ size * 10 ^ decimals.toNat + unitsPerOne ∧
      2 * exponentUnit * (size * 10 ^ decimals.toNat) ≤
        2 * exponentUnit * (units * unitsPerOne) + units * unitsPerOne := by
  have tens : 0 < 10 ^ decimals.toNat := Nat.pow_pos (by decide)
  have whole := ofNat_stands (representable_of_le small)
  have quotient : (mk units).toFloat decimals =
      roundUnits false (units * unitsPerOne) (10 ^ decimals.toNat) := by
    rw [toFloat, div_eq whole (powerOfTen_stands digits) (Nat.mul_pos tens unitsPerOne_pos),
      roundUnits, nearestUnits_mul_right _ _ unitsPerOne_pos]
    rfl
  obtain ⟨pattern, bounded, pattern_units⟩ := exists_pattern (representable_of_le small)
  have finite : nearestUnits (units * unitsPerOne) (10 ^ decimals.toNat) < infinitePattern := by
    apply Nat.lt_of_le_of_lt _ bounded
    apply nearestUnits_le tens
    rw [pattern_units]
    exact Nat.le_mul_of_pos_right _ tens
  refine ⟨_, quotient ▸ stands_roundUnits finite, ?_⟩
  rcases Nat.eq_zero_or_pos units with rfl | positive
  · have none_left : nearestUnits (0 * unitsPerOne) (10 ^ decimals.toNat) = 0 :=
      nearestUnits_eq tens (by decide) (by simp [patternUnits])
    have least : patternUnits 0 = 0 := by decide
    rw [none_left, least]
    omega
  · have normal : exponentUnit * 10 ^ decimals.toNat ≤ units * unitsPerOne :=
      calc exponentUnit * 10 ^ decimals.toNat ≤ exponentUnit * 10 ^ 22 :=
            Nat.mul_le_mul_left _ (Nat.pow_le_pow_right (by decide) digits)
        _ ≤ 1 * unitsPerOne := by decide +kernel
        _ ≤ units * unitsPerOne := Nat.mul_le_mul_right _ positive
    obtain ⟨lower, upper⟩ := nearestUnits_near tens normal finite
    have most : units * unitsPerOne ≤ 2 * exponentUnit * unitsPerOne :=
      Nat.mul_le_mul_right _ small
    refine ⟨?_, upper⟩
    generalize units * unitsPerOne = exact_ at *
    unfold exponentUnit at *
    omega

/-- What is read from a double is the whole part of the nearest double to the exact product. -/
theorem units_ofFloat (stands : carried.Stands size) (digits : decimals.toNat ≤ 22)
    (finite : nearestUnits (size * 10 ^ decimals.toNat) 1 < infinitePattern) :
    (ofFloat carried decimals).units =
      patternUnits (nearestUnits (size * 10 ^ decimals.toNat) 1) / unitsPerOne := by
  have product : carried.mul (powerOfTen decimals) =
      roundUnits false (size * 10 ^ decimals.toNat) 1 := by
    rw [mul_eq stands (powerOfTen_stands digits), roundUnits, roundUnits, ← Nat.mul_assoc,
      ← nearestUnits_mul_right _ 1 unitsPerOne_pos, Nat.one_mul]
  rw [ofFloat, product]
  exact floorNat_of_stands (stands_roundUnits finite)

theorem le_units_ofFloat_iff (stands : carried.Stands size) (digits : decimals.toNat ≤ 22)
    (finite : nearestUnits (size * 10 ^ decimals.toNat) 1 < infinitePattern) {n : Nat}
    (representable : Representable n) :
    n ≤ (ofFloat carried decimals).units ↔
      Reaches (size * 10 ^ decimals.toNat) (.ofNat n) := by
  have whole := ofNat_stands representable
  rw [units_ofFloat stands digits finite, Nat.le_div_iff_mul_le unitsPerOne_pos, ← whole.units_eq,
    patternUnits_strictMono.le_iff_le, reaches_iff whole.finite]

/-- A double that the exact product does not exceed is not exceeded by what is read. -/
theorem units_ofFloat_le (stands : carried.Stands size) (digits : decimals.toNat ≤ 22)
    {pattern : Nat} (bounded : pattern < infinitePattern)
    (le : size * 10 ^ decimals.toNat ≤ patternUnits pattern) :
    (ofFloat carried decimals).units ≤ patternUnits pattern / unitsPerOne := by
  have nearest : nearestUnits (size * 10 ^ decimals.toNat) 1 ≤ pattern :=
    nearestUnits_le (by decide) (by rwa [Nat.mul_one])
  rw [units_ofFloat stands digits (Nat.lt_of_le_of_lt nearest bounded)]
  exact Nat.div_le_div_right (patternUnits_strictMono.monotone nearest)

/-- Reading back costs or creates one unit at most, creates none below 2^52 units, and gives the units
back exactly when the product of the carried double is rounded to them and not to the next. -/
theorem units_ofFloat_toFloat (small : units < 2 * exponentUnit) (digits : decimals.toNat ≤ 22) :
    let carried := (mk units).toFloat decimals
    let read := (ofFloat carried decimals).units
    let product := carried.magnitude * 10 ^ decimals.toNat
    (read = units ↔ Reaches product (.ofNat units) ∧ ¬ Reaches product (.ofNat (units + 1))) ∧
      units ≤ read + 1 ∧ read ≤ units + 1 ∧ (units < exponentUnit → read ≤ units) := by
  intro carried read product
  obtain ⟨size, stands, lower, upper⟩ := toFloat_stands (Nat.le_of_lt small) digits
  have product_eq : product = size * 10 ^ decimals.toNat := by
    rw [← stands.magnitude_eq]
  rw [← product_eq] at lower upper
  have most : units * unitsPerOne < 2 * exponentUnit * unitsPerOne :=
    Nat.mul_lt_mul_of_pos_right small unitsPerOne_pos
  have next_units : (units + 1) * unitsPerOne = units * unitsPerOne + unitsPerOne :=
    Nat.succ_mul units unitsPerOne
  -- The product is at most that of one unit more, so it stays finite.
  obtain ⟨next, next_finite, next_eq⟩ := exists_pattern (representable_of_le small)
  have product_le : product ≤ patternUnits next := by
    rw [next_eq, Nat.succ_eq_add_one, next_units]
    generalize units * unitsPerOne = exact_ at *
    unfold exponentUnit at *
    omega
  have nearest_le : nearestUnits product 1 ≤ next :=
    nearestUnits_le (by decide) (by rwa [Nat.mul_one])
  have reads_iff {n : Nat} (le : n ≤ 2 * exponentUnit) : n ≤ read ↔ Reaches product (.ofNat n) := by
    have finite := Nat.lt_of_le_of_lt nearest_le next_finite
    rw [product_eq] at finite ⊢
    exact le_units_ofFloat_iff stands digits finite (representable_of_le le)
  refine ⟨?_, ?_, ?_, ?_⟩
  · rw [← reads_iff (Nat.le_of_lt small), ← reads_iff small]
    omega
  · cases units with
    | zero => exact Nat.zero_le _
    | succ fewer =>
        have some_left : fewer * unitsPerOne ≤ product := by
          rw [Nat.succ_mul] at lower
          omega
        have le : fewer ≤ 2 * exponentUnit := by omega
        have whole := ofNat_stands (representable_of_le le)
        apply Nat.succ_le_succ
        apply (reads_iff le).mpr
        apply (reaches_iff whole.finite product).mpr
        apply le_nearestUnits (by decide) (Nat.le_of_lt whole.finite)
        rw [Nat.mul_one]
        exact Nat.le_trans (Nat.le_of_eq whole.units_eq) some_left
  · have read_le := units_ofFloat_le stands digits next_finite (product_eq ▸ product_le)
    rwa [next_eq, Nat.mul_div_cancel _ unitsPerOne_pos] at read_le
  · intro few
    -- Half a unit more is still a double, and the product is not above it.
    obtain ⟨exponent, one_eq⟩ : ∃ exponent, unitsPerOne = 2 ^ exponent * 2 :=
      ⟨1073, by decide +kernel⟩
    have bits : 2 * units + 1 ≤ 2 * exponentUnit := by omega
    obtain ⟨middle, middle_units⟩ := exists_patternUnits_eq bits exponent
    have middle_eq : patternUnits middle = units * unitsPerOne + 2 ^ exponent := by
      rw [middle_units, one_eq]
      ring
    have below_next : patternUnits middle < patternUnits next := by
      have positive := Nat.two_pow_pos exponent
      rw [middle_eq, next_eq, Nat.succ_eq_add_one, next_units]
      omega
    have product_le_middle : product ≤ patternUnits middle := by
      have least : units * unitsPerOne < exponentUnit * unitsPerOne :=
        Nat.mul_lt_mul_of_pos_right few unitsPerOne_pos
      rw [middle_eq]
      generalize units * unitsPerOne = exact_ at *
      unfold exponentUnit at *
      omega
    have middle_finite : middle < infinitePattern :=
      Nat.lt_trans (patternUnits_strictMono.lt_iff_lt.mp below_next) next_finite
    have read_le := units_ofFloat_le stands digits middle_finite (product_eq ▸ product_le_middle)
    rw [next_eq, ← Nat.div_lt_iff_lt_mul unitsPerOne_pos] at below_next
    exact Nat.le_of_lt_succ (Nat.lt_of_le_of_lt read_le below_next)

/-- Above 2^52 units one can be created. -/
example : (ofFloat ((mk 9007199254640997).toFloat 1) 1).units = 9007199254640998 := by
  decide +kernel

end TokenAmount

namespace SwapBuilder

/-- A direct mint on the ledger carries a double of which one base unit at most is lost or created when
it is read back, and none created below 2^52 units. It is read back unchanged exactly when its product
with the power of ten is rounded to the units that were rebased and not to the next. -/
theorem direct_mint_read_back_iff (builder : SwapBuilder) (source : RandomBytes) (amount : Nat)
    (route : builder.route = .evmToLedger amount) (digits : builder.config.destination ≤ 18)
    (small : (TokenAmount.mk amount).rebase builder.config.origin builder.config.destination <
      2 ^ 53) :
    let rebased :=
      (TokenAmount.mk amount).rebase builder.config.origin builder.config.destination
    ∃ carried, (builder.buildDirect source).operation.amount = .ledger carried ∧
      let read := (TokenAmount.ofFloat carried builder.config.destination).units
      let product := carried.magnitude * 10 ^ builder.config.destination.toNat
      (read = rebased ↔ Reaches product (.ofNat rebased) ∧ ¬ Reaches product (.ofNat (rebased + 1))) ∧
        rebased ≤ read + 1 ∧ read ≤ rebased + 1 ∧ (rebased < 2 ^ 52 → read ≤ rebased) := by
  intro rebased
  have few : builder.config.destination.toNat ≤ 22 :=
    Nat.le_trans (UInt32.le_iff_toNat_le.mp digits) (by decide)
  refine ⟨ledgerAmount builder.config amount, ?_, ?_⟩
  · rw [buildDirect, route]
    rfl
  · exact @TokenAmount.units_ofFloat_toFloat rebased _ small few

/-- A quarter of a token is read back whole. -/
theorem direct_mint_read_back_iff_quarter :
    let builder := (SwapBuilder.new (.evmToLedger (25 * 10 ^ 16)) (FixedBytes.fill 32 1)
      (FixedBytes.fill 20 2)).setConfig ⟨18, 8⟩
    builder.config.destination ≤ 18 ∧
      (TokenAmount.mk (25 * 10 ^ 16)).rebase 18 8 = 25000000 ∧ 25000000 < 2 ^ 53 ∧
      ∃ carried, (builder.buildDirect ⟨fun _ => 7⟩).operation.amount = .ledger carried ∧
        (TokenAmount.ofFloat carried 8).units = 25000000 := by
  intro builder
  have digits : builder.config.destination ≤ 18 := by decide
  have rebased : (TokenAmount.mk (25 * 10 ^ 16)).rebase 18 8 = 25000000 := by decide
  have small : 25000000 < 2 ^ 53 := by decide
  obtain ⟨carried, same, reads, _⟩ :=
    direct_mint_read_back_iff builder ⟨fun _ => 7⟩ (25 * 10 ^ 16) rfl digits (rebased ▸ small)
  have quarter : (builder.buildDirect ⟨fun _ => 7⟩).operation.amount =
      .ledger ⟨0x3fd0000000000000⟩ := by decide +kernel
  cases same.symm.trans quarter
  have read := reads.mpr ⟨by decide +kernel, by decide +kernel⟩
  exact ⟨digits, rebased, small, _, same, read.trans rebased⟩

/-- At 8 digits, 29000000 base units travel as the double 0.29, and what is read from it is one unit
less. -/
theorem direct_mint_loses_unit :
    let builder := (SwapBuilder.new (.evmToLedger (29 * 10 ^ 16)) (FixedBytes.fill 32 1)
      (FixedBytes.fill 20 2)).setConfig ⟨18, 8⟩
    let carried : Binary64 := ⟨0x3fd28f5c28f5c28f⟩
    builder.config.destination ≤ 18 ∧
      (TokenAmount.mk (29 * 10 ^ 16)).rebase builder.config.origin builder.config.destination =
        29000000 ∧
      29000000 < 2 ^ 53 ∧
      (builder.buildDirect ⟨fun _ => 7⟩).operation.amount = .ledger carried ∧
      (TokenAmount.ofFloat carried builder.config.destination).units = 28999999 := by
  decide +kernel

end SwapBuilder
end BridgeClient
