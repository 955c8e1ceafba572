import BridgeClient.Await.Awaiter
import BridgeClient.Ledger.Node

set_option autoImplicit false

/-!
Deposits on the ledger, seen as growth of a token account. The first balance only sets a baseline;
each later one is compared with the one before it.
-/
namespace BridgeClient

/-- A balance that grew between two looks. -/
structure LedgerDeposit where
  account : Key
  previous : UInt64
  balance : UInt64
deriving DecidableEq

namespace LedgerDeposit

def amount (deposit : LedgerDeposit) : UInt64 := deposit.balance - deposit.previous

instance : ToJson LedgerDeposit := ⟨fun deposit =>
  Json.ofMembers
    [Json.member "account" deposit.account,
      Json.member "previous_balance" deposit.previous.toNat,
      Json.member "balance" deposit.balance.toNat]⟩

end LedgerDeposit

/-- Reads a node's answer about a token account. It must exist and belong to the token program. -/
def readTokenAccount (address : Key) (reply : Except BridgeError (Option AccountInfo)) :
    Except BridgeError TokenAccount :=
  match reply with
  | .error e => .error e
  | .ok none => .error (.accountNotFound address.toBase58)
  | .ok (some info) =>
      if info.owner = Programs.token then TokenAccount.unpack info.data
      else .error (.unexpectedOwner address.toBase58 info.owner.toBase58)

namespace BalanceTracker

/-- Compares a balance with the one before, and remembers it in any case. -/
def observe (account : Key) (target : Nat) (previous : Option UInt64) (balance : UInt64) :
    Option LedgerDeposit × Option UInt64 :=
  match previous with
  | none => (none, some balance)
  | some before =>
      if before ≤ balance && balance.toNat - before.toNat = target then
        (some ⟨account, before, balance⟩, some balance)
      else (none, some balance)

/-- Matches on the balances of token accounts. -/
def matcher (account : Key) (target : Nat) : Matcher (Option UInt64) TokenAccount LedgerDeposit :=
  ⟨fun previous tokenAccount => observe account target previous tokenAccount.amount⟩

end BalanceTracker

/-- Watches the token account that a watch names. Every wait starts from a new baseline. -/
def ledgerAwaiter : Awaiter (Option UInt64) TokenAccount LedgerDeposit where
  name := "ledger"
  prepare watch := do
    let account ← Key.parse watch.address
    return (BalanceTracker.matcher account watch.amount, none)

theorem ledgerAwaiter_prepare {watch : DepositWatch} {account : Key}
    (parsed : Key.parse watch.address = .ok account) :
    ledgerAwaiter.prepare watch = .ok (BalanceTracker.matcher account watch.amount, none) := by
  simp [ledgerAwaiter, parsed, bind, Except.bind, pure, Except.pure]

end BridgeClient
