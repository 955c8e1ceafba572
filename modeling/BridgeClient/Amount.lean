import BridgeClient.Number.Binary64

set_option autoImplicit false

/-!
Token amounts in base units, and their rebasing between tokens of different precision.

A float enters once, when a person's amount becomes base units. From there on all is integer
arithmetic, with floor division where digits are dropped.
-/
namespace BridgeClient

/-- Digits after the point of a token's unit. -/
abbrev Decimals := UInt32

/-- A whole number of base units at some implied precision. -/
structure TokenAmount where
  units : Nat
deriving DecidableEq

namespace TokenAmount

/-- Base units of a human readable amount; what lies below one unit is cut off. Negative amounts,
infinities and NaN are worth nothing. -/
def ofFloat (amount : Binary64) (decimals : Decimals) : TokenAmount :=
  ⟨(amount.mul (Binary64.powerOfTen decimals)).floorNat⟩

/-- Base units after adding `decimals` digits. -/
def scaleUp (amount : TokenAmount) (decimals : Nat) : Nat := amount.units * Nat.pow 10 decimals

/-- Base units after dropping `decimals` digits. -/
def scaleDown (amount : TokenAmount) (decimals : Nat) : Nat := amount.units / Nat.pow 10 decimals

/-- Base units at precision `destination` of an amount at precision `origin`. -/
def rebase (amount : TokenAmount) (origin destination : Decimals) : Nat :=
  if origin ≤ destination then amount.scaleUp (destination.toNat - origin.toNat)
  else amount.scaleDown (origin.toNat - destination.toNat)

/-- The human readable amount, rounded to a double. -/
def toFloat (amount : TokenAmount) (decimals : Decimals) : Binary64 :=
  (Binary64.ofNat amount.units).div (Binary64.powerOfTen decimals)

end TokenAmount

/-- One transfer amount seen from both ends of a bridge. -/
structure BridgedAmount where
  amount : Binary64
  origin : Decimals
  destination : Decimals
deriving DecidableEq

namespace BridgedAmount

/-- The same route with another amount. -/
def set (transfer : BridgedAmount) (amount : Binary64) : BridgedAmount :=
  { transfer with amount }

/-- Base units on the origin chain. -/
def atOrigin (transfer : BridgedAmount) : Nat :=
  (TokenAmount.ofFloat transfer.amount transfer.origin).units

/-- Base units on the destination chain: those of the origin, rebased. -/
def atDestination (transfer : BridgedAmount) : Nat :=
  (TokenAmount.ofFloat transfer.amount transfer.origin).rebase transfer.origin transfer.destination

end BridgedAmount
end BridgeClient
