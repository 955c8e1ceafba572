import BridgeClient.Await.LedgerDeposit
import BridgeClient.Proofs.Ledger.Key
import BridgeClient.Proofs.Sequencing

set_option autoImplicit false

/-!
The texts of keys, and the watch of a wallet's token account. A key has one text, so the address that
such a watch carries is read back as the account that it was written from.
-/
namespace BridgeClient

open Sequencing

namespace DepositWatch

variable {scheme : Derivation} {owner mint account : Key} {amount : Nat} {watch : DepositWatch}

/-- A wallet's token account is watched whenever it can be derived. -/
theorem associated_eq_ok_iff :
    associated scheme owner mint amount = .ok watch ↔
      ∃ account, associatedTokenAddress scheme owner mint = .ok account ∧
        watch = new account.toBase58 mint.toBase58 amount := by
  rw [associated, bind_eq_ok_iff]
  refine exists_congr fun account => and_congr_right fun _ => ?_
  constructor
  · intro made
    cases made
    rfl
  · rintro rfl
    rfl

/-- A ledger awaiter looks at the account whose text is the address. -/
theorem prepare_of_address (written : watch.address = account.toBase58) :
    ledgerAwaiter.prepare watch = .ok (BalanceTracker.matcher account watch.amount, none) :=
  ledgerAwaiter_prepare (Key.parse_eq_ok_iff.mpr written)

end DepositWatch

namespace Key

theorem spells_toBase58 (key : Key) :
    Base58.Spells key.toBase58.toList key.bytes.toList (Base58.numeral key.bytes.toList) := by
  rw [toBase58, Base58.encode, String.toList_ofList]
  exact Base58.spells_encodeChars key.bytes.toList

/-- Keys and the texts that are read as keys go together one to one, and a key is written as one `1`
for each zero byte in front and the shortest numeral. So a ledger awaiter that is set to the watch of
a wallet's token account looks at that account, whatever else about the watch is changed. -/
theorem text_form_canonical (scheme : Derivation) :
    (∀ key : Key, ∃ digits, Base58.Spells key.toBase58.toList key.bytes.toList digits) ∧
    (∀ key, parse key.toBase58 = .ok key) ∧
    (∀ text key, parse text = .ok key → key.toBase58 = text) ∧
    (∀ text other key otherKey, parse text = .ok key → parse other = .ok otherKey →
      text ≠ other → key ≠ otherKey) ∧
    (∀ owner mint amount account, associatedTokenAddress scheme owner mint = .ok account →
      ∃ watch, DepositWatch.associated scheme owner mint amount = .ok watch) ∧
    (∀ owner mint amount watch, DepositWatch.associated scheme owner mint amount = .ok watch →
      ∃ account, associatedTokenAddress scheme owner mint = .ok account ∧
        parse watch.address = .ok account ∧
        ∀ changed : DepositWatch, changed.address = watch.address →
          ledgerAwaiter.prepare changed =
            .ok (BalanceTracker.matcher account changed.amount, none)) := by
  refine ⟨fun key => ⟨_, key.spells_toBase58⟩, fun key => parse_eq_ok_iff.mpr rfl,
    fun text key read => (parse_eq_ok_iff.mp read).symm, ?_, ?_, ?_⟩
  · rintro text other key _ read readOther apart rfl
    exact apart ((parse_eq_ok_iff.mp read).trans (parse_eq_ok_iff.mp readOther).symm)
  · intro owner mint amount account derived
    exact ⟨_, DepositWatch.associated_eq_ok_iff.mpr ⟨account, derived, rfl⟩⟩
  · intro owner mint amount watch made
    obtain ⟨account, derived, rfl⟩ := DepositWatch.associated_eq_ok_iff.mp made
    exact ⟨account, derived, parse_eq_ok_iff.mpr rfl,
      fun changed same => DepositWatch.prepare_of_address same⟩

end Key
end BridgeClient
