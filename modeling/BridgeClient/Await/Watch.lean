import BridgeClient.Amount
import BridgeClient.Ledger.TokenAccount

set_option autoImplicit false

/-! What a deposit awaiter waits for. -/
namespace BridgeClient

/-- One exact deposit, and how to look for it. Times are in milliseconds. -/
structure DepositWatch where
  /-- The receiving address, or the token account on the ledger. -/
  address : String
  /-- The token's contract. -/
  asset : String
  /-- The amount in base units. -/
  amount : Nat
  /-- The first block to look at; of use to explorers only. -/
  blockStart : Option Nat
  pollInterval : Nat
  timeout : Option Nat
deriving DecidableEq

namespace DepositWatch

/-- A look every five seconds, without an end. -/
def new (address asset : String) (amount : Nat) : DepositWatch :=
  ⟨address, asset, amount, none, 5000, none⟩

/-- Waits for a transfer on its origin chain. -/
def atOrigin (address asset : String) (transfer : BridgedAmount) : DepositWatch :=
  new address asset transfer.atOrigin

/-- Waits for a transfer on its destination chain. -/
def atDestination (address asset : String) (transfer : BridgedAmount) : DepositWatch :=
  new address asset transfer.atDestination

/-- Waits for a deposit into the token account of `owner` for `mint`. -/
def associated (scheme : Derivation) (owner mint : Key) (amount : Nat) :
    Except BridgeError DepositWatch := do
  let account ← associatedTokenAddress scheme owner mint
  return new account.toBase58 mint.toBase58 amount

def withBlockStart (watch : DepositWatch) (block : Nat) : DepositWatch :=
  { watch with blockStart := some block }

def withPollInterval (watch : DepositWatch) (interval : Nat) : DepositWatch :=
  { watch with pollInterval := interval }

def withTimeout (watch : DepositWatch) (timeout : Nat) : DepositWatch :=
  { watch with timeout := some timeout }

end DepositWatch
end BridgeClient
