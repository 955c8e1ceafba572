import BridgeClient.Proofs.Ledger.Header
import BridgeClient.Proofs.Ledger.Transaction

set_option autoImplicit false

/-!
What is known of a transaction before it is signed. Its size is: packing relies on that, since a
batch is measured when no signature of it exists. Which signatures it takes is known too: those of
the required signers, whatever else has been collected.
-/
namespace BridgeClient

namespace SignatureMap

/-- Adds signatures one after the other. -/
def insertAll (signatures : SignatureMap) (more : List (Key × Signature)) : SignatureMap :=
  more.foldl (fun collected entry => collected.insert entry.1 entry.2) signatures

theorem find?_insertAll_of_foreign {signatures : SignatureMap} {more : List (Key × Signature)}
    {key : Key} (foreign : ∀ entry ∈ more, entry.1 ≠ key) :
    (signatures.insertAll more).find? key = signatures.find? key := by
  induction more generalizing signatures with
  | nil => rfl
  | cons entry rest ih =>
      obtain ⟨here, later⟩ := List.forall_mem_cons.mp foreign
      have others := @ih (signatures.insert entry.1 entry.2) later
      rw [find?_insert, if_neg (Ne.symm here)] at others
      exact others

end SignatureMap

namespace Transaction

/-- Only the signatures of required signers are looked up. -/
theorem assemble_congr {message : Message} {signatures others : SignatureMap}
    (same : ∀ key ∈ message.signerKeys, signatures.find? key = others.find? key) :
    assemble message signatures = assemble message others := by
  have slots : ∀ keys : List Key, (∀ key ∈ keys, signatures.find? key = others.find? key) →
      keys.mapM (slot signatures) = keys.mapM (slot others) := by
    intro keys agree
    induction keys with
    | nil => rfl
    | cons key rest ih =>
        obtain ⟨here, later⟩ := List.forall_mem_cons.mp agree
        rw [List.mapM_cons, List.mapM_cons, ih later, slot, slot, here]
  rw [assemble_eq, assemble_eq, slots _ same]

/-- A message with a key for each signature it asks for gets as many as it asks for. -/
theorem length_signatures_of_assemble {message : Message} {signatures : SignatureMap}
    {transaction : Transaction}
    (enough : message.requiredSignatures.toNat ≤ message.accountKeys.length)
    (assembled : assemble message signatures = .ok transaction) :
    transaction.signatures.length = message.requiredSignatures.toNat := by
  obtain ⟨_, filled⟩ := assemble_eq_ok_iff.mp assembled
  have lengths := congrArg List.length filled
  rw [List.length_map, List.length_map, Message.signerKeys, List.length_take] at lengths
  omega

/-- A transaction with all its signatures has the size that was foreseen, or fails to be written
with the error that foreseeing it met. -/
theorem map_length_serialize {transaction : Transaction}
    (full : transaction.signatures.length = transaction.message.requiredSignatures.toNat) :
    transaction.serialize.map List.length = wireSize transaction.message := by
  have few := requiredSignatures_lt transaction.message
  rw [serialize, wireSize, full, CompactLength.encodeChecked_of_lt few]
  cases transaction.message.serialize with
  | error reason => rfl
  | ok bytes =>
      have parts := length_signatures transaction.signatures
      simp only [bind, Except.bind, pure, Except.pure, Except.map, List.length_append, parts, full,
        Nat.add_assoc]

/-- The bytes of an assembled transaction are as many as its message foretold, and there are none
just if there was no such number. Signatures of others, collected on top, change nothing. Every
compiled message has a key for each signature that it asks for. -/
theorem signed_size_foreseen (message : Message) (signatures : SignatureMap) :
    (message.requiredSignatures.toNat ≤ message.accountKeys.length →
      ∀ transaction, assemble message signatures = .ok transaction →
        transaction.serialize.map List.length = wireSize message) ∧
      (∀ more : List (Key × Signature), (∀ entry ∈ more, entry.1 ∉ message.signerKeys) →
        assemble message (signatures.insertAll more) = assemble message signatures) ∧
      ∀ instructions feePayer blockhash,
        Message.compile instructions feePayer blockhash = .ok message →
          message.requiredSignatures.toNat ≤ message.accountKeys.length := by
  refine ⟨?_, ?_, ?_⟩
  · intro enough transaction assembled
    have full := length_signatures_of_assemble enough assembled
    obtain ⟨rfl, _⟩ := assemble_eq_ok_iff.mp assembled
    exact map_length_serialize full
  · intro more foreign
    apply assemble_congr
    intro key required
    apply SignatureMap.find?_insertAll_of_foreign
    rintro entry inside rfl
    exact foreign entry inside required
  · intro instructions feePayer blockhash compiled
    rw [← Message.length_signerKeys compiled, Message.signerKeys]
    exact List.length_take_le' _ _

/-- Two of the four keys of a compiled message sign, and a third party has signed as well. -/
theorem signed_size_foreseen_two_signers :
    let accounts := [AccountMeta.readOnly (Key.fill 1) true,
      AccountMeta.writable (Key.fill 2) false, AccountMeta.readOnly (Key.fill 3) true]
    let message : Message := ⟨2, 1, 1, [Key.fill 1, Key.fill 3, Key.fill 2, Key.fill 9],
      FixedBytes.fill 32 7, [⟨3, [0, 2, 1], [1, 2, 3]⟩]⟩
    let signatures := (SignatureMap.empty.insert (Key.fill 3) ⟨FixedBytes.fill 64 3⟩).insert
      (Key.fill 1) ⟨FixedBytes.fill 64 1⟩
    let transaction : Transaction :=
      ⟨[⟨FixedBytes.fill 64 1⟩, ⟨FixedBytes.fill 64 3⟩], message⟩
    Message.compile [⟨Key.fill 9, accounts, [1, 2, 3]⟩] (Key.fill 1) (FixedBytes.fill 32 7) =
        .ok message ∧
      assemble message signatures = .ok transaction ∧
      transaction.serialize.map List.length = .ok 303 ∧
      Key.fill 5 ∉ message.signerKeys ∧
      assemble message (signatures.insertAll [(Key.fill 5, ⟨FixedBytes.fill 64 5⟩)]) =
        .ok transaction := by
  intro accounts message signatures transaction
  have compiled : Message.compile [⟨Key.fill 9, accounts, [1, 2, 3]⟩] (Key.fill 1)
      (FixedBytes.fill 32 7) = .ok message := rfl
  have assembled : assemble message signatures = .ok transaction := rfl
  have measured : wireSize message = .ok 303 := by cbv
  have foreign : Key.fill 5 ∉ message.signerKeys := by decide
  obtain ⟨sized, dropped, enough⟩ := signed_size_foreseen message signatures
  refine ⟨compiled, assembled, ?_, foreign, ?_⟩
  · rw [sized (enough _ _ _ compiled) transaction assembled, measured]
  · rw [dropped _ (by simpa using foreign), assembled]

end Transaction
end BridgeClient
