import BridgeClient.Amount
import BridgeClient.Proofs.History
import Mathlib.Algebra.Order.Ring.Nat
import Mathlib.Data.List.Induction

set_option autoImplicit false

/-!
Rebasing between precisions. An amount of `n` units at `d` digits is worth `n / 10^d`; multiplied out
with the other side's power of ten, an amount and the amount that it becomes are compared exactly. No
value is created, less than one unit of the destination is lost, and nothing where digits are added.
-/
namespace BridgeClient

open History

/-- What an amount at one precision has to do with the amount that it becomes at another. -/
structure Rebased (origin destination : Decimals) (units result : Nat) : Prop where
  /-- No value is created. -/
  no_more : result * 10 ^ origin.toNat ≤ units * 10 ^ destination.toNat
  /-- Less than one unit is lost. -/
  no_unit_less : units * 10 ^ destination.toNat < (result + 1) * 10 ^ origin.toNat
  /-- Adding digits is exact. -/
  whole : origin ≤ destination → result * 10 ^ origin.toNat = units * 10 ^ destination.toNat

namespace TokenAmount

theorem scaleDown_bounds (amount : TokenAmount) (decimals : Nat) :
    amount.scaleDown decimals * 10 ^ decimals ≤ amount.units ∧
      amount.units < (amount.scaleDown decimals + 1) * 10 ^ decimals := by
  have positive : 0 < 10 ^ decimals := Nat.pow_pos (by decide)
  constructor
  · exact Nat.div_mul_le_self amount.units (10 ^ decimals)
  · exact Nat.lt_mul_of_div_lt (Nat.lt_succ_self _) positive

theorem rebase_of_le {origin destination : Decimals} (le : origin ≤ destination)
    (amount : TokenAmount) :
    amount.rebase origin destination =
      amount.units * 10 ^ (destination.toNat - origin.toNat) := by
  rw [rebase, if_pos le, scaleUp, Nat.pow_eq]

theorem rebase_of_lt {origin destination : Decimals} (lt : destination < origin)
    (amount : TokenAmount) :
    amount.rebase origin destination = amount.scaleDown (origin.toNat - destination.toNat) := by
  have not_le : ¬ origin ≤ destination := UInt32.not_le.mpr lt
  rw [rebase, if_neg not_le]

theorem rebased (amount : TokenAmount) (origin destination : Decimals) :
    Rebased origin destination amount.units (amount.rebase origin destination) := by
  have positive : 0 < 10 ^ origin.toNat := Nat.pow_pos (by decide)
  by_cases le : origin ≤ destination
  · -- Both powers of ten come to that of the destination.
    have digits : destination.toNat - origin.toNat + origin.toNat = destination.toNat :=
      Nat.sub_add_cancel le
    have same : amount.rebase origin destination * 10 ^ origin.toNat =
        amount.units * 10 ^ destination.toNat := by
      rw [rebase_of_le le, Nat.mul_assoc, ← Nat.pow_add, digits]
    refine ⟨Nat.le_of_eq same, ?_, fun _ => same⟩
    rw [← same]
    exact Nat.mul_lt_mul_of_pos_right (Nat.lt_succ_self _) positive
  · -- The bounds of the division, times the power of ten that is left.
    have lt : destination < origin := UInt32.not_le.mp le
    have digits : origin.toNat - destination.toNat + destination.toNat = origin.toNat :=
      Nat.sub_add_cancel (Nat.le_of_lt lt)
    have split : 10 ^ origin.toNat =
        10 ^ (origin.toNat - destination.toNat) * 10 ^ destination.toNat := by
      rw [← Nat.pow_add, digits]
    obtain ⟨lower, upper⟩ := amount.scaleDown_bounds (origin.toNat - destination.toNat)
    rw [← rebase_of_lt lt] at lower upper
    refine ⟨?_, ?_, fun added => absurd added le⟩
    · rw [split, ← Nat.mul_assoc]
      exact Nat.mul_le_mul_right _ lower
    · rw [split, ← Nat.mul_assoc]
      exact Nat.mul_lt_mul_of_pos_right upper (Nat.pow_pos (by decide))

/-- One unit at 18 digits is too little for 8, and is lost whole. -/
example : (mk 1).rebase 18 8 = 0 := by decide

/-- More units never become fewer. -/
theorem rebase_le_rebase {units more : Nat} (le : units ≤ more) (origin destination : Decimals) :
    (mk units).rebase origin destination ≤ (mk more).rebase origin destination := by
  have below := (rebased (mk units) origin destination).no_more
  have above := (rebased (mk more) origin destination).no_unit_less
  have between : (mk units).rebase origin destination * 10 ^ origin.toNat <
      ((mk more).rebase origin destination + 1) * 10 ^ origin.toNat :=
    calc _ ≤ units * 10 ^ destination.toNat := below
      _ ≤ more * 10 ^ destination.toNat := Nat.mul_le_mul_right _ le
      _ < _ := above
  exact Nat.le_of_lt_succ (Nat.lt_of_mul_lt_mul_right between)

end TokenAmount

namespace BridgedAmount

/-- What can be changed about an amount seen from both ends of a bridge. -/
inductive Change where
  | amount (amount : Binary64)
  | origin (decimals : Decimals)
  | destination (decimals : Decimals)

namespace Change

def amount? : Change → Option Binary64
  | amount value => some value
  | _ => none

def origin? : Change → Option Decimals
  | origin decimals => some decimals
  | _ => none

def destination? : Change → Option Decimals
  | destination decimals => some decimals
  | _ => none

end Change

def change (transfer : BridgedAmount) : Change → BridgedAmount
  | .amount amount => transfer.set amount
  | .origin origin => { transfer with origin }
  | .destination destination => { transfer with destination }

/-- The amount after some changes. -/
def follow (transfer : BridgedAmount) (changes : List Change) : BridgedAmount :=
  changes.foldl change transfer

theorem follow_concat (transfer : BridgedAmount) (changes : List Change) (next : Change) :
    transfer.follow (changes ++ [next]) = (transfer.follow changes).change next := by
  rw [follow, List.foldl_append]
  rfl

/-- Each field is what it was last set to. -/
theorem follow_eq (transfer : BridgedAmount) (changes : List Change) :
    transfer.follow changes =
      ⟨latest Change.amount? transfer.amount changes, latest Change.origin? transfer.origin changes,
        latest Change.destination? transfer.destination changes⟩ := by
  induction changes using List.reverseRecOn with
  | nil => rfl
  | append_singleton changes next ih =>
      rw [follow_concat, ih, latest_concat, latest_concat, latest_concat]
      cases next <;> rfl

/-- The base units on both sides come from one conversion of the amount. -/
theorem rebased (transfer : BridgedAmount) :
    Rebased transfer.origin transfer.destination transfer.atOrigin transfer.atDestination :=
  TokenAmount.rebased (.ofFloat transfer.amount transfer.origin) transfer.origin
    transfer.destination

end BridgedAmount

/-- Rebasing creates no value, loses less than one unit of the destination, and never makes more
units worth less. Both ends of a transfer keep to it, whatever was changed about the transfer. -/
theorem rebasing_keeps_value :
    (∀ (units : Nat) (origin destination : Decimals),
        Rebased origin destination units ((TokenAmount.mk units).rebase origin destination)) ∧
      (∀ origin destination : Decimals,
        Monotone fun units => (TokenAmount.mk units).rebase origin destination) ∧
      ∀ (transfer : BridgedAmount) (changes : List BridgedAmount.Change),
        let amount := latest BridgedAmount.Change.amount? transfer.amount changes
        let origin := latest BridgedAmount.Change.origin? transfer.origin changes
        let destination := latest BridgedAmount.Change.destination? transfer.destination changes
        let now := transfer.follow changes
        now = ⟨amount, origin, destination⟩ ∧
          Rebased origin destination now.atOrigin now.atDestination := by
  refine ⟨fun units => TokenAmount.rebased ⟨units⟩, ?_, ?_⟩
  · intro origin destination units more le
    exact TokenAmount.rebase_le_rebase le origin destination
  · intro transfer changes amount origin destination now
    have fields : now = ⟨amount, origin, destination⟩ := transfer.follow_eq changes
    refine ⟨fields, ?_⟩
    rw [fields]
    exact BridgedAmount.rebased ⟨amount, origin, destination⟩

end BridgeClient
