import BridgeClient.Proofs.Amount.Rebasing

set_option autoImplicit false

/-!
Rebasing in two steps, through a precision in between. Any rebasing is one floor division: by the
power of ten of the origin, of the units times that of the destination. Hence two steps come to the
same as one unless the precision in between is coarser than both ends. Then the digits below it are
lost, and zeros stand in their places afterwards.
-/
namespace BridgeClient.TokenAmount

theorem ten_pow_pos (decimals : Nat) : 0 < 10 ^ decimals := Nat.pow_pos (by decide)

/-- The power of ten of the finer of two precisions, by that of the coarser. -/
theorem ten_pow_of_le {coarse fine : Decimals} (le : coarse ≤ fine) :
    10 ^ fine.toNat = 10 ^ coarse.toNat * 10 ^ (fine.toNat - coarse.toNat) := by
  have digits : coarse.toNat + (fine.toNat - coarse.toNat) = fine.toNat :=
    Nat.add_sub_cancel' le
  rw [← Nat.pow_add, digits]

/-- Adding and dropping digits in one formula. -/
theorem rebase_eq_div (amount : TokenAmount) (origin destination : Decimals) :
    amount.rebase origin destination =
      amount.units * 10 ^ destination.toNat / 10 ^ origin.toNat := by
  have bounds := amount.rebased origin destination
  exact (Nat.div_eq_of_lt_le bounds.no_more bounds.no_unit_less).symm

/-- Base units at precision `destination` of what is left of an amount at precision `between`. -/
def rebaseVia (amount : TokenAmount) (origin between destination : Decimals) : Nat :=
  (mk (amount.rebase origin between)).rebase between destination

section Via

variable {origin between destination : Decimals}

/-- Nothing is lost on the way to a precision that is at least that of the origin. -/
theorem rebaseVia_of_origin_le (le : origin ≤ between) (amount : TokenAmount) :
    amount.rebaseVia origin between destination = amount.rebase origin destination := by
  have whole : amount.rebase origin between * 10 ^ origin.toNat =
      amount.units * 10 ^ between.toNat := (amount.rebased origin between).whole le
  have cross : amount.rebase origin between * 10 ^ destination.toNat * 10 ^ origin.toNat =
      amount.units * 10 ^ destination.toNat * 10 ^ between.toNat := by
    rw [Nat.mul_right_comm, whole, Nat.mul_right_comm]
  calc amount.rebaseVia origin between destination
      = amount.rebase origin between * 10 ^ destination.toNat / 10 ^ between.toNat :=
        rebase_eq_div _ _ _
    _ = amount.rebase origin between * 10 ^ destination.toNat * 10 ^ origin.toNat /
          (10 ^ between.toNat * 10 ^ origin.toNat) :=
        (Nat.mul_div_mul_right _ _ (ten_pow_pos _)).symm
    _ = amount.units * 10 ^ destination.toNat * 10 ^ between.toNat /
          (10 ^ origin.toNat * 10 ^ between.toNat) := by rw [cross, Nat.mul_comm (10 ^ _)]
    _ = amount.units * 10 ^ destination.toNat / 10 ^ origin.toNat :=
        Nat.mul_div_mul_right _ _ (ten_pow_pos _)
    _ = amount.rebase origin destination := (rebase_eq_div _ _ _).symm

/-- Digits that the destination does not have may as well be dropped in two steps. -/
theorem rebaseVia_of_destination_le (le : destination ≤ between) (amount : TokenAmount) :
    amount.rebaseVia origin between destination = amount.rebase origin destination := by
  have split := ten_pow_of_le le
  calc amount.rebaseVia origin between destination
      = amount.rebase origin between * 10 ^ destination.toNat / 10 ^ between.toNat :=
        rebase_eq_div _ _ _
    _ = amount.rebase origin between / 10 ^ (between.toNat - destination.toNat) := by
        rw [split, Nat.mul_comm, Nat.mul_div_mul_left _ _ (ten_pow_pos _)]
    _ = amount.units * 10 ^ between.toNat /
          (10 ^ origin.toNat * 10 ^ (between.toNat - destination.toNat)) := by
        rw [rebase_eq_div, Nat.div_div_eq_div_mul]
    _ = amount.units * 10 ^ destination.toNat / 10 ^ origin.toNat := by
        rw [split, ← Nat.mul_assoc, Nat.mul_div_mul_right _ _ (ten_pow_pos _)]
    _ = amount.rebase origin destination := (rebase_eq_div _ _ _).symm

theorem rebaseVia_of_lt (coarser : between < origin) (finer : between < destination)
    (amount : TokenAmount) :
    amount.rebaseVia origin between destination =
      amount.units / 10 ^ (origin.toNat - between.toNat) *
        10 ^ (destination.toNat - between.toNat) := by
  rw [rebaseVia, rebase_of_le (UInt32.le_of_lt finer), rebase_of_lt coarser, scaleDown, Nat.pow_eq]

/-- What the detour loses is less than the smallest amount that the precision in between can hold,
measured at the destination. -/
theorem rebaseVia_bounds (finer : between < destination) (amount : TokenAmount) :
    amount.rebaseVia origin between destination ≤ amount.rebase origin destination ∧
      amount.rebase origin destination < amount.rebaseVia origin between destination +
        10 ^ (destination.toNat - between.toNat) := by
  have le : between ≤ destination := UInt32.le_of_lt finer
  have first := amount.rebased origin between
  have second : amount.rebaseVia origin between destination =
      amount.rebase origin between * 10 ^ (destination.toNat - between.toNat) := rebase_of_le le _
  have scaled : amount.units * 10 ^ destination.toNat =
      amount.units * 10 ^ between.toNat * 10 ^ (destination.toNat - between.toNat) := by
    rw [ten_pow_of_le le, Nat.mul_assoc]
  rw [second, rebase_eq_div amount origin destination, scaled]
  constructor
  · rw [Nat.le_div_iff_mul_le (ten_pow_pos _), Nat.mul_right_comm]
    exact Nat.mul_le_mul_right _ first.no_more
  · rw [Nat.div_lt_iff_lt_mul (ten_pow_pos _), ← Nat.succ_mul,
      Nat.mul_right_comm _ _ (10 ^ origin.toNat)]
    exact Nat.mul_lt_mul_of_pos_right first.no_unit_less (ten_pow_pos _)

theorem rebase_self (amount : TokenAmount) (decimals : Decimals) :
    amount.rebase decimals decimals = amount.units := by
  rw [rebase_of_le (UInt32.le_refl _), Nat.sub_self, Nat.pow_zero, Nat.mul_one]

/-- There and back again, the digits that were dropped are missing. -/
theorem rebaseVia_back_of_lt (coarser : between < origin) (amount : TokenAmount) :
    amount.rebaseVia origin between origin +
      amount.units % 10 ^ (origin.toNat - between.toNat) = amount.units := by
  rw [rebaseVia_of_lt coarser coarser]
  exact Nat.div_add_mod' _ _

end Via

/-- Two steps are as good as one if the precision in between is at least that of one end. If it is
coarser than both ends, they give the amount cut off at the precision in between, which is less than
one unit there below the direct result. So more digits and back is exact, and fewer digits and back
loses just the digits that were dropped. -/
theorem rebaseVia_against_direct (units : Nat) (origin between destination : Decimals) :
    let amount := mk units
    let stepwise := amount.rebaseVia origin between destination
    let direct := amount.rebase origin destination
    let dropped := origin.toNat - between.toNat
    let added := destination.toNat - between.toNat
    (origin ≤ between ∨ destination ≤ between → stepwise = direct) ∧
      (between < origin → between < destination →
        stepwise = units / 10 ^ dropped * 10 ^ added ∧ stepwise ≤ direct ∧
          direct < stepwise + 10 ^ added) ∧
      (origin ≤ between → amount.rebaseVia origin between origin = units) ∧
      (between < origin →
        amount.rebaseVia origin between origin + units % 10 ^ dropped = units) := by
  intro amount stepwise direct dropped added
  refine ⟨?_, ?_, ?_, ?_⟩
  · intro fine
    rcases fine with fine | fine
    · exact rebaseVia_of_origin_le fine amount
    · exact rebaseVia_of_destination_le fine amount
  · intro coarser finer
    exact ⟨rebaseVia_of_lt coarser finer amount, rebaseVia_bounds finer amount⟩
  · intro fine
    rw [rebaseVia_of_origin_le fine, rebase_self]
  · intro coarser
    exact rebaseVia_back_of_lt coarser amount

/-- From 18 to 8 digits by way of 6, the two digits in between are lost. -/
example : (mk 1234567890123456789).rebaseVia 18 6 8 = 123456700 ∧
    (mk 1234567890123456789).rebase 18 8 = 123456789 := by decide

end BridgeClient.TokenAmount
