import BridgeClient.Invocation.Executor
import BridgeClient.Proofs.Invocation.Uniform
import BridgeClient.Proofs.Ledger.Header
import BridgeClient.Proofs.Ledger.Reading

set_option autoImplicit false

/-!
Signing one transaction. It succeeds exactly when the group fits and the context has a keypair for
every key that must sign, and what comes out has the size that packing measured.
-/
namespace BridgeClient

open Sequencing

namespace CallContext

variable {K : Type}

/-- Everyone who signs: the primary, then the auxiliary signers. -/
def keypairs (context : CallContext K) : List K :=
  context.primary :: context.signers.map AuxiliarySigner.key

variable [SigningKey K]

/-- The keys that the context can sign for. -/
def keys (context : CallContext K) : List Key := context.keypairs.map SigningKey.publicKey

/-- The primary, every auxiliary signer and every extra account flagged as a signer, each once. -/
def signatories (context : CallContext K) : List Key :=
  (context.primaryKey :: (context.signers.map AuxiliarySigner.publicKey ++
    (context.extra.filter fun account => account.isSigner).map AccountMeta.key)).eraseDups

/-- The accounts of an instruction ask the signatories to sign, and no one else. -/
theorem mem_signatories_iff {context : CallContext K}
    (flagged : ∀ signer ∈ context.signers, signer.isSigner = true) (target : ProgramTarget)
    (key : Key) :
    key ∈ context.signatories ↔ key = context.primaryKey ∨
      ∃ account ∈ context.accounts target, account.key = key ∧ account.isSigner = true := by
  simp only [signatories, List.mem_eraseDups, List.mem_cons, List.mem_append, List.mem_map,
    List.mem_filter]
  constructor
  · intro signs
    rcases signs with payer | ⟨signer, among, named⟩ | ⟨account, ⟨among, signs⟩, named⟩
    · exact Or.inl payer
    · refine Or.inr ⟨signer.accountMeta, ?_, named, flagged signer among⟩
      simp only [accounts, List.mem_cons, List.mem_append, List.mem_map]
      exact Or.inr (Or.inr (Or.inr (Or.inl ⟨signer, among, rfl⟩)))
    · refine Or.inr ⟨account, ?_, named, signs⟩
      simp only [accounts, List.mem_cons, List.mem_append]
      exact Or.inr (Or.inr (Or.inr (Or.inr among)))
  · intro signs
    rcases signs with payer | ⟨account, among, named, signs⟩
    · exact Or.inl payer
    · simp only [accounts, List.mem_cons, List.mem_append, List.mem_map] at among
      rcases among with rfl | rfl | ⟨_, _, rfl⟩ | ⟨signer, among, rfl⟩ | among
      · exact Or.inl named.symm
      · cases signs
      · cases signs
      · exact Or.inr (Or.inl ⟨signer, among, named⟩)
      · exact Or.inr (Or.inr ⟨account, ⟨among, signs⟩, named⟩)

end CallContext

namespace Executor

variable {K : Type} [SigningKey K]

/-- One more signature for every keypair, in order. -/
def signAll (keypairs : List K) (message : Bytes) (signed : SignatureMap) : SignatureMap :=
  keypairs.foldl (fun signed keypair =>
    signed.insert (SigningKey.publicKey keypair) (SigningKey.sign keypair message)) signed

theorem signatures_eq_signAll (context : CallContext K) (message : Bytes) :
    signatures context message = signAll context.keypairs message .empty := by
  rw [signAll, CallContext.keypairs, List.foldl_cons, List.foldl_map]
  rfl

theorem find?_signAll {keypairs : List K} {message : Bytes} {signed : SignatureMap} {key : Key}
    {signature : Signature} (found : (signAll keypairs message signed).find? key = some signature) :
    (∃ keypair ∈ keypairs, SigningKey.publicKey keypair = key ∧
      signature = SigningKey.sign keypair message) ∨ signed.find? key = some signature := by
  induction keypairs generalizing signed with
  | nil => exact Or.inr found
  | cons keypair rest ih =>
      rcases ih found with ⟨other, among, named, made⟩ | earlier
      · exact Or.inl ⟨other, List.mem_cons_of_mem _ among, named, made⟩
      · rw [SignatureMap.find?_insert] at earlier
        split at earlier
        · rename_i same
          cases earlier
          exact Or.inl ⟨keypair, List.mem_cons_self .., same.symm, rfl⟩
        · exact Or.inr earlier

theorem exists_find?_signAll_iff {keypairs : List K} {message : Bytes} {signed : SignatureMap}
    {key : Key} :
    (∃ signature, (signAll keypairs message signed).find? key = some signature) ↔
      key ∈ keypairs.map SigningKey.publicKey ∨ ∃ signature, signed.find? key = some signature := by
  induction keypairs generalizing signed with
  | nil => simp [signAll]
  | cons keypair rest ih =>
      have step : signAll (keypair :: rest) message signed = signAll rest message
          (signed.insert (SigningKey.publicKey keypair) (SigningKey.sign keypair message)) := rfl
      rw [step, ih, SignatureMap.find?_insert]
      by_cases same : key = SigningKey.publicKey keypair <;> simp [same]

/-- A signature of the context was made by one of its keypairs. -/
theorem find?_signatures {context : CallContext K} {message : Bytes} {key : Key}
    {signature : Signature} (found : (signatures context message).find? key = some signature) :
    ∃ keypair ∈ context.keypairs, SigningKey.publicKey keypair = key ∧
      signature = SigningKey.sign keypair message := by
  rw [signatures_eq_signAll] at found
  rcases find?_signAll found with made | earlier
  · exact made
  · cases earlier

theorem exists_find?_signatures_iff {context : CallContext K} {message : Bytes} {key : Key} :
    (∃ signature, (signatures context message).find? key = some signature) ↔
      key ∈ context.keys := by
  rw [signatures_eq_signAll, exists_find?_signAll_iff, CallContext.keys]
  simp

section Prepare

variable {context : CallContext K} {group : List Instruction} {blockhash : Blockhash}

theorem prepare_eq_ok_iff {signed : SignedTransaction} :
    prepare context group blockhash = .ok signed ↔
      ∃ message ordered, Message.compile group context.primaryKey blockhash = .ok message ∧
        message.Countable ∧
        message.signerKeys.map (signatures context message.layout).find? = ordered.map some ∧
        (Transaction.mk ordered message).layout.length ≤ Transaction.maxSize ∧
        signed = ⟨message.layout, (Transaction.mk ordered message).layout⟩ := by
  simp only [prepare, bind_eq_ok_iff, Message.serialize_eq_ok_iff, Transaction.assemble_eq_ok_iff,
    Transaction.serialize_eq_ok_iff]
  constructor
  · intro prepared
    obtain ⟨message, compiled, bytes, ⟨countable, rfl⟩, ⟨ordered, same⟩, ⟨rfl, filled⟩, raw,
      ⟨_, _, rfl⟩, whole⟩ := prepared
    split at whole
    · cases whole
    · rename_i small
      cases whole
      exact ⟨same, ordered, compiled, countable, filled, Nat.not_lt.mp small, rfl⟩
  · intro parts
    obtain ⟨message, ordered, compiled, countable, filled, small, rfl⟩ := parts
    have few := Transaction.length_lt_of_slots filled
    refine ⟨message, compiled, _, ⟨countable, rfl⟩, ⟨ordered, message⟩, ⟨rfl, filled⟩, _,
      ⟨countable, few, rfl⟩, ?_⟩
    rw [if_neg (Nat.not_lt.mpr small)]
    rfl

/-- What is sent has the size that was measured. -/
theorem length_layout_of_signed {message : Message} {ordered : List Signature}
    (compiled : Message.compile group context.primaryKey blockhash = .ok message)
    (filled : message.signerKeys.map (signatures context message.layout).find? = ordered.map some) :
    ordered.length = message.requiredSignatures.toNat ∧
      (Transaction.mk ordered message).layout.length =
        Transaction.signedSize message.requiredSignatures.toNat message := by
  have slots := congrArg List.length filled
  rw [List.length_map, List.length_map, Message.length_signerKeys compiled] at slots
  refine ⟨slots.symm, ?_⟩
  have few := Transaction.length_lt_of_slots filled
  rw [Transaction.length_layout few, ← slots]

/-- A group can be signed when it fits and the context has every key that must sign. -/
theorem exists_prepare_iff :
    (∃ signed, prepare context group blockhash = .ok signed) ↔
      Packing.Fits (Packing.measure context.primaryKey blockhash) group ∧
        ∀ key, Message.MustSign group context.primaryKey key → key ∈ context.keys := by
  simp only [prepare_eq_ok_iff, Packing.fits_iff]
  constructor
  · intro prepared
    obtain ⟨_, message, ordered, compiled, countable, filled, small, _⟩ := prepared
    rw [(length_layout_of_signed compiled filled).2] at small
    refine ⟨⟨message, compiled, countable, small⟩, ?_⟩
    intro key signs
    have short := Transaction.layout_le_of_signedSize_le small
    have asked := (Message.mem_signerKeys_iff_of_small compiled countable short key).mpr signs
    exact exists_find?_signatures_iff.mp (exists_map_eq_map_iff.mp ⟨ordered, filled⟩ key asked)
  · intro parts
    obtain ⟨⟨message, compiled, countable, small⟩, everyone⟩ := parts
    have short := Transaction.layout_le_of_signedSize_le small
    have present : ∀ key ∈ message.signerKeys, ∃ signature,
        (signatures context message.layout).find? key = some signature := by
      intro key asked
      have signs := (Message.mem_signerKeys_iff_of_small compiled countable short key).mp asked
      exact exists_find?_signatures_iff.mpr (everyone key signs)
    obtain ⟨ordered, filled⟩ := exists_map_eq_map_iff.mpr present
    refine ⟨_, message, ordered, compiled, countable, filled, ?_, rfl⟩
    rw [(length_layout_of_signed compiled filled).2]
    exact small

/-- What is prepared is a written transaction of the compiled group. -/
theorem exists_transaction_of_prepare {signed : SignedTransaction}
    (prepared : prepare context group blockhash = .ok signed) :
    ∃ transaction : Transaction, transaction.serialize = .ok signed.raw ∧
      Message.compile group context.primaryKey blockhash = .ok transaction.message ∧
      transaction.message.Countable ∧
      transaction.message.layout.length ≤ Transaction.maxSize := by
  obtain ⟨message, ordered, compiled, countable, filled, small, rfl⟩ :=
    prepare_eq_ok_iff.mp prepared
  obtain ⟨_, size⟩ := length_layout_of_signed compiled filled
  have few := Transaction.length_lt_of_slots filled
  rw [size] at small
  exact ⟨⟨ordered, message⟩, Transaction.serialize_eq_ok_iff.mpr ⟨countable, few, rfl⟩, compiled,
    countable, Transaction.layout_le_of_signedSize_le small⟩

end Prepare

/-- Bytes that split into signatures and a message, one signature for every signatory: each is over
the message, by a keypair of the context whose public key has the same place in the message. -/
structure SignedFor (context : CallContext K) (raw : Bytes) (signatures : List Signature)
    (message : Bytes) : Prop where
  small : raw.length ≤ Transaction.maxSize
  split : Transaction.split? raw = some (signatures, message)
  announced : message.head?.map UInt8.toNat = some signatures.length
  counted : signatures.length = context.signatories.length
  slots : ∃ keys, Message.keys? message = some keys ∧
    ∀ (place : Nat) (signature : Signature), signatures[place]? = some signature →
      ∃ keypair ∈ context.keypairs, keys[place]? = some (SigningKey.publicKey keypair) ∧
        signature = SigningKey.sign keypair message

/-- A role that a group asks for is one that its account list asks for. -/
private theorem asked_iff_of_uniform {program feePayer : Key} {accounts : List AccountMeta}
    {group : List Instruction} (role : AccountMeta → Bool)
    (uniform : Packing.Uniform program accounts group) (nonempty : group ≠ []) (key : Key) :
    (key = feePayer ∨ ∃ instruction ∈ group, ∃ account ∈ instruction.accounts,
        account.key = key ∧ role account = true) ↔
      key = feePayer ∨ ∃ account ∈ accounts, account.key = key ∧ role account = true := by
  constructor
  · intro asks
    rcases asks with payer | ⟨instruction, inside, account, among, asked⟩
    · exact Or.inl payer
    · rw [(uniform instruction inside).2] at among
      exact Or.inr ⟨account, among, asked⟩
  · intro asks
    rcases asks with payer | ⟨account, among, asked⟩
    · exact Or.inl payer
    · obtain ⟨first, inside⟩ := List.exists_mem_of_ne_nil group nonempty
      rw [← (uniform first inside).2] at among
      exact Or.inr ⟨first, inside, account, among, asked⟩

theorem mustSign_iff_of_uniform {program feePayer : Key} {accounts : List AccountMeta}
    {group : List Instruction} (uniform : Packing.Uniform program accounts group)
    (nonempty : group ≠ []) (key : Key) :
    Message.MustSign group feePayer key ↔ key = feePayer ∨
      ∃ account ∈ accounts, account.key = key ∧ account.isSigner = true :=
  asked_iff_of_uniform AccountMeta.isSigner uniform nonempty key

theorem mayWrite_iff_of_uniform {program feePayer : Key} {accounts : List AccountMeta}
    {group : List Instruction} (uniform : Packing.Uniform program accounts group)
    (nonempty : group ≠ []) (key : Key) :
    Message.MayWrite group feePayer key ↔ key = feePayer ∨
      ∃ account ∈ accounts, account.key = key ∧ account.isWritable = true :=
  asked_iff_of_uniform AccountMeta.isWritable uniform nonempty key

/-- What was prepared is signed by everyone who has to sign. -/
theorem exists_signedFor {context : CallContext K} {target : ProgramTarget}
    {group : List Instruction} {blockhash : Blockhash} {signed : SignedTransaction}
    (flagged : ∀ signer ∈ context.signers, signer.isSigner = true)
    (uniform : Packing.Uniform target.program (context.accounts target) group)
    (nonempty : group ≠ []) (prepared : prepare context group blockhash = .ok signed) :
    ∃ signatures, SignedFor context signed.raw signatures signed.message := by
  obtain ⟨message, ordered, compiled, countable, filled, small, rfl⟩ :=
    prepare_eq_ok_iff.mp prepared
  obtain ⟨count, size⟩ := length_layout_of_signed compiled filled
  have few := Transaction.length_lt_of_slots filled
  have short : message.layout.length ≤ Transaction.maxSize := by
    rw [size] at small
    exact Transaction.layout_le_of_signedSize_le small
  have everyone : message.signerKeys.Perm context.signatories := by
    apply (List.perm_ext_iff_of_nodup (Message.nodup_signerKeys compiled) (nodup_eraseDups _)).mpr
    intro key
    show key ∈ message.signerKeys ↔ key ∈ context.signatories
    rw [Message.mem_signerKeys_iff_of_small compiled countable short,
      mustSign_iff_of_uniform uniform nonempty, CallContext.mem_signatories_iff flagged target]
  refine ⟨ordered, small, Transaction.split?_layout few, ?_, ?_, message.accountKeys,
    Message.keys?_layout countable, ?_⟩
  · rw [count]
    rfl
  · rw [count, ← Message.length_signerKeys compiled, everyone.length_eq]
  · intro place signature found
    have slot : (message.signerKeys.map (signatures context message.layout).find?)[place]? =
        some (some signature) := by
      rw [filled, List.getElem?_map, found]
      rfl
    rw [List.getElem?_map, Option.map_eq_some_iff] at slot
    obtain ⟨key, there, made⟩ := slot
    obtain ⟨keypair, among, named, same⟩ := find?_signatures made
    refine ⟨keypair, among, ?_, same⟩
    rw [Message.signerKeys, List.getElem?_take] at there
    split at there
    · rw [there, named]
    · cases there

end Executor
end BridgeClient
