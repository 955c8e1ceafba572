import BridgeClient.Proofs.Invocation.Single
import BridgeClient.Proofs.Ledger.Placing

set_option autoImplicit false

/-!
Which payloads are sent. Once a blockhash is there, a payload alone is sent when everyone who is
flagged as a signer has a keypair and its transaction fits; the size comes from the numbers of keys,
signers and accounts and from the length of the data. Near the limits of places, lengths and counts
a transaction is far too large already, so none of them moves the boundary.
-/
namespace BridgeClient

open Sequencing Packing

section Errors

/-- Lists that cannot be counted are reported as such. -/
theorem CompactLength.encodeChecked_eq_error {n : Nat} {reason : BridgeError}
    (failed : encodeChecked n = .error reason) : ∃ text, reason = .serialization text := by
  by_cases bound : n < 65536
  · rw [encodeChecked_of_lt bound] at failed
    cases failed
  · rw [encodeChecked_of_le (by omega)] at failed
    cases failed
    exact ⟨_, rfl⟩

theorem Message.serializeInstruction_eq_error {instruction : CompiledInstruction}
    {reason : BridgeError} (failed : serializeInstruction instruction = .error reason) :
    ∃ text, reason = .serialization text := by
  rcases bind_eq_error_iff.mp failed with accounts | ⟨_, _, failed⟩
  · exact CompactLength.encodeChecked_eq_error accounts
  · rcases bind_eq_error_iff.mp failed with data | ⟨_, _, failed⟩
    · exact CompactLength.encodeChecked_eq_error data
    · cases failed

theorem Message.serialize_eq_error {message : Message} {reason : BridgeError}
    (failed : message.serialize = .error reason) : ∃ text, reason = .serialization text := by
  rcases bind_eq_error_iff.mp failed with keys | ⟨_, _, failed⟩
  · exact CompactLength.encodeChecked_eq_error keys
  · rcases bind_eq_error_iff.mp failed with count | ⟨_, _, failed⟩
    · exact CompactLength.encodeChecked_eq_error count
    · rcases bind_eq_error_iff.mp failed with walk | ⟨_, _, failed⟩
      · obtain ⟨_, _, _, _, _, instruction⟩ := mapM_eq_error_iff.mp walk
        exact serializeInstruction_eq_error instruction
      · cases failed

theorem Packing.measure_eq_error {feePayer : Key} {blockhash : Blockhash}
    {group : List Instruction} {reason : BridgeError}
    (failed : measure feePayer blockhash group = .error reason) :
    ∃ text, reason = .serialization text := by
  rcases bind_eq_error_iff.mp failed with uncompiled | ⟨message, _, unsized⟩
  · rw [Message.compile_eq] at uncompiled
    split at uncompiled
    · cases uncompiled
      exact ⟨_, rfl⟩
    · cases uncompiled
  · exact Message.serialize_eq_error (Transaction.wireSize_eq_error_iff.mp unsized)

end Errors

namespace CallContext

variable {K : Type} [SigningKey K] (context : CallContext K) (target : ProgramTarget)

/-- The keys that an instruction names: its accounts and its program, each once. -/
def namedKeys : Finset Key :=
  ((context.accounts target).map AccountMeta.key ++ [target.program]).toFinset

/-- The primary, and the accounts that are flagged as signers, each once. -/
def signingKeys : Finset Key :=
  insert context.primaryKey
    (((context.accounts target).filter fun account => account.isSigner).map
      AccountMeta.key).toFinset

/-- The size of the transaction of some data: the signatures, the header, the keys, the blockhash
and one instruction with its program, its accounts and its data. -/
def transactionSize (data : Bytes) : Nat :=
  CompactLength.size (context.signingKeys target).card +
    64 * (context.signingKeys target).card + 3 +
    CompactLength.size (context.namedKeys target).card +
    32 * (context.namedKeys target).card + 32 + 1 + 1 +
    CompactLength.size (context.accounts target).length +
    (context.accounts target).length + CompactLength.size data.length + data.length

theorem primaryKey_mem_accounts :
    context.primaryKey ∈ (context.accounts target).map AccountMeta.key := by
  simp [accounts, AccountMeta.readOnly]

theorem signingKeys_subset : context.signingKeys target ⊆ context.namedKeys target := by
  intro key signs
  simp only [signingKeys, namedKeys, Finset.mem_insert, List.mem_toFinset, List.mem_map,
    List.mem_filter, List.mem_append] at signs ⊢
  rcases signs with rfl | ⟨account, ⟨among, _⟩, rfl⟩
  · exact Or.inl (List.mem_map.mp (context.primaryKey_mem_accounts target))
  · exact Or.inl ⟨account, among, rfl⟩

/-- Few keys have few signers among them, and a byte counts those exactly. -/
theorem card_signingKeys_mod (few : (context.namedKeys target).card < 256) :
    (context.signingKeys target).card % 256 = (context.signingKeys target).card := by
  have fewer : (context.signingKeys target).card ≤ (context.namedKeys target).card :=
    Finset.card_le_card (context.signingKeys_subset target)
  exact Nat.mod_eq_of_lt (by omega)

variable {context target}

/-- The roster of the instruction has an entry for every key it names. -/
theorem length_sharedRoster :
    (sharedRoster target.program (context.accounts target) context.primaryKey).length =
      (context.namedKeys target).card := by
  rw [sharedRoster, Message.length_roster]
  congr 1
  ext key
  have primary := context.primaryKey_mem_accounts target
  simp only [Message.namings, namedKeys, List.mem_toFinset, List.mem_cons, List.flatMap_cons,
    List.flatMap_nil, List.append_nil]
  constructor
  · intro named
    rcases named with rfl | named
    · exact List.mem_append_left _ primary
    · exact named
  · exact Or.inr

theorem mem_signingKeys_iff {key : Key} :
    key ∈ context.signingKeys target ↔ key = context.primaryKey ∨
      ∃ account ∈ context.accounts target, account.key = key ∧ account.isSigner = true := by
  simp only [signingKeys, Finset.mem_insert, List.mem_toFinset, List.mem_map, List.mem_filter]
  refine or_congr_right ⟨?_, ?_⟩
  · rintro ⟨account, ⟨among, signs⟩, named⟩
    exact ⟨account, among, named, signs⟩
  · rintro ⟨account, among, named, signs⟩
    exact ⟨account, ⟨among, signs⟩, named⟩

/-- Those entries of the roster that sign have the signing keys. -/
theorem countP_sharedRoster :
    (sharedRoster target.program (context.accounts target) context.primaryKey).countP
        (fun account => account.isSigner) = (context.signingKeys target).card := by
  let group : List Instruction := [⟨target.program, context.accounts target, []⟩]
  have uniform : Uniform target.program (context.accounts target) group :=
    uniform_map target.program (context.accounts target) [[]]
  let flagged := (Message.roster group context.primaryKey).filter fun account => account.isSigner
  have once : (flagged.map AccountMeta.key).Nodup :=
    (Message.nodup_keys_roster _ _).sublist (List.filter_sublist.map _)
  have same : (flagged.map AccountMeta.key).toFinset = context.signingKeys target := by
    ext key
    rw [mem_signingKeys_iff, ← Executor.mustSign_iff_of_uniform uniform (List.cons_ne_nil _ _),
      List.mem_toFinset, List.mem_map]
    constructor
    · rintro ⟨account, inside, rfl⟩
      obtain ⟨entry, signs⟩ := List.mem_filter.mp inside
      exact (Message.isSigner_iff_of_mem entry).mp signs
    · intro signs
      obtain ⟨account, entry, rfl⟩ := List.mem_map.mp (Message.mustSign_mem_keys signs)
      exact ⟨account, List.mem_filter.mpr ⟨entry, (Message.isSigner_iff_of_mem entry).mpr signs⟩,
        rfl⟩
  rw [← same, List.toFinset_card_of_nodup once, List.length_map, List.countP_eq_length_filter]
  rfl

end CallContext

namespace Executor

variable {K P : Type} [SigningKey K] [Payload P] {target : ProgramTarget} {context : CallContext K}
  {blockhash : Blockhash} {node : Node} {journal : Journal}

/-- The instruction of some data. -/
def instructionOf (target : ProgramTarget) (context : CallContext K) (data : Bytes) : Instruction :=
  ⟨target.program, context.accounts target, data⟩

theorem uniform_instructionOf (target : ProgramTarget) (context : CallContext K) (data : Bytes) :
    Uniform target.program (context.accounts target) [instructionOf target context data] :=
  uniform_map target.program (context.accounts target) [data]

/-- What is measured is the size of the transaction, with the signers counted by a byte. -/
theorem measure_instructionOf_eq_ok_iff {data : Bytes} {size : Nat} :
    measure context.primaryKey blockhash [instructionOf target context data] = .ok size ↔
      (context.namedKeys target).card ≤ 256 ∧ (context.accounts target).length < 65536 ∧
        data.length < 65536 ∧
        size = CompactLength.size ((context.signingKeys target).card % 256) +
          64 * ((context.signingKeys target).card % 256) + 3 +
          CompactLength.size (context.namedKeys target).card +
          32 * (context.namedKeys target).card + 32 + 1 + 1 +
          CompactLength.size (context.accounts target).length + (context.accounts target).length +
          CompactLength.size data.length + data.length := by
  rw [measure_eq_ok_iff (uniform_instructionOf target context data) (List.cons_ne_nil _ _)]
  simp only [CallContext.length_sharedRoster, Message.toNat_count, CallContext.countP_sharedRoster,
    Message.maxAccounts, Message.Measurable, List.forall_mem_singleton, List.length_singleton,
    Message.frame, Message.loads, Message.load, instructionOf]
  have one : CompactLength.size 1 = 1 := rfl
  rw [one]
  constructor
  · rintro ⟨named, -, ⟨few, short⟩, rfl⟩
    exact ⟨named, few, short, by omega⟩
  · rintro ⟨named, few, short, rfl⟩
    exact ⟨named, by omega, ⟨few, short⟩, by omega⟩

/-- A transaction that fits has so few keys that their counts are exact. -/
theorem measure_eq_transactionSize {data : Bytes} {size : Nat} (small : size ≤ 1232)
    (measured : measure context.primaryKey blockhash [instructionOf target context data] =
      .ok size) : size = context.transactionSize target data := by
  obtain ⟨_, _, _, rfl⟩ := measure_instructionOf_eq_ok_iff.mp measured
  have few : (context.namedKeys target).card < 256 := by omega
  rw [context.card_signingKeys_mod target few, CallContext.transactionSize]

/-- A payload fits exactly if its transaction is small enough. -/
theorem fits_instructionOf_iff (blockhash : Blockhash) (data : Bytes) :
    Fits (measure context.primaryKey blockhash) [instructionOf target context data] ↔
      context.transactionSize target data ≤ 1232 := by
  constructor
  · rintro ⟨size, measured, small⟩
    rw [← measure_eq_transactionSize small measured]
    exact small
  · intro small
    have parts := small
    unfold CallContext.transactionSize at parts
    have few : (context.namedKeys target).card < 256 := by omega
    refine ⟨_, measure_instructionOf_eq_ok_iff.mpr
      ⟨by omega, by omega, by omega, ?_⟩, small⟩
    rw [context.card_signingKeys_mod target few, CallContext.transactionSize]

/-- What is signed has the size that was measured. -/
theorem measure_of_prepare {group : List Instruction} {signed : SignedTransaction}
    (prepared : prepare context group blockhash = .ok signed) :
    measure context.primaryKey blockhash group = .ok signed.raw.length ∧
      signed.raw.length ≤ Transaction.maxSize := by
  obtain ⟨message, ordered, compiled, countable, filled, small, rfl⟩ :=
    prepare_eq_ok_iff.mp prepared
  obtain ⟨_, size⟩ := length_layout_of_signed compiled filled
  refine ⟨bind_eq_ok_iff.mpr ⟨message, compiled, ?_⟩, small⟩
  exact Transaction.wireSize_eq_ok_iff.mpr ⟨countable, size⟩

/-- A signature is reported missing only if an account flagged as a signer has no keypair. -/
theorem keyless_of_prepare_eq_signing {data : Bytes} {text : String}
    (failed : prepare context [instructionOf target context data] blockhash =
      .error (.signing text)) :
    ∃ account ∈ context.accounts target, account.isSigner = true ∧ account.key ∉ context.keys := by
  have uniform := uniform_instructionOf target context data
  cases measured : measure context.primaryKey blockhash [instructionOf target context data] with
  | error reason =>
      obtain ⟨other, rfl⟩ := measure_eq_error measured
      rw [prepare_of_measure_error measured] at failed
      cases failed
  | ok size =>
      by_cases small : size ≤ Transaction.maxSize
      · by_contra everyone
        have signable : context.Signable target := by
          intro account among flagged
          by_contra missing
          exact everyone ⟨account, among, flagged, missing⟩
        obtain ⟨signed, prepared⟩ := (exists_prepare_iff_signable uniform
          (List.cons_ne_nil _ _) ⟨size, measured, small⟩).mpr signable
        rw [prepared] at failed
        cases failed
      · rcases prepare_of_overflow uniform (List.cons_ne_nil _ _) measured
          (Nat.not_le.mp small) with large | ⟨_, keyless⟩
        · rw [large] at failed
          cases failed
        · exact keyless

/-- A payload can be signed and sent if everyone flagged has a keypair and the transaction fits. -/
theorem exists_prepare_instructionOf_iff (target : ProgramTarget) (context : CallContext K)
    (blockhash : Blockhash) (data : Bytes) :
    (∃ signed, prepare context [instructionOf target context data] blockhash = .ok signed) ↔
      context.Signable target ∧ context.transactionSize target data ≤ 1232 := by
  rw [← fits_instructionOf_iff blockhash data]
  have uniform := uniform_instructionOf target context data
  constructor
  · rintro ⟨signed, prepared⟩
    obtain ⟨measured, small⟩ := measure_of_prepare prepared
    have fits : Fits (measure context.primaryKey blockhash)
        [instructionOf target context data] := ⟨_, measured, small⟩
    exact ⟨(exists_prepare_iff_signable uniform (List.cons_ne_nil _ _) fits).mp ⟨signed, prepared⟩,
      fits⟩
  · rintro ⟨signable, fits⟩
    exact (exists_prepare_iff_signable uniform (List.cons_ne_nil _ _) fits).mpr signable

theorem signAndSubmit_calls {group : List Instruction} {signed : SignedTransaction}
    (prepared : prepare context group blockhash = .ok signed) (journal : Journal) :
    (signAndSubmit target context group blockhash node journal).journal.calls =
      journal.calls ++ [.send signed.raw] := by
  cases answer : node.send journal.calls signed.raw with
  | error reason => rw [signAndSubmit_refused journal prepared answer]; rfl
  | ok signature => rw [signAndSubmit_accepted journal prepared answer]; rfl

section Invoke

variable {payload : P} {data : Bytes} {reason : BridgeError}

theorem buildInstruction_of_serialize (written : Payload.serialize payload = .ok data) :
    buildInstruction target context payload = .ok (instructionOf target context data) :=
  buildInstruction_eq_ok_iff.mpr ⟨data, written, rfl⟩

/-- A payload that is signed is sent once, whatever the node answers. -/
theorem invoke_calls_of_prepare (asked : node.blockhash journal.calls = .ok blockhash)
    (written : Payload.serialize payload = .ok data) {signed : SignedTransaction}
    (prepared : prepare context [instructionOf target context data] blockhash = .ok signed) :
    (invoke target context payload node journal).journal.calls =
      journal.calls ++ [.blockhash, .send signed.raw] := by
  rw [invoke, observe_calls, invokeSingle_of_built asked (buildInstruction_of_serialize written),
    signAndSubmit_calls prepared]
  exact (List.append_cons ..).symm

/-- Counting a failure changes neither the error nor what was asked of the node. -/
theorem invoke_of_single_error {after : Journal}
    (failed : invokeSingle target context payload node journal = ⟨.error reason, after⟩) :
    (invoke target context payload node journal).result = .error reason ∧
      (invoke target context payload node journal).journal.calls = after.calls := by
  rw [invoke, observe_result, observe_calls, failed]
  exact ⟨rfl, rfl⟩

/-- What keeps a payload from being signed is reported, with nothing sent. -/
theorem invoke_of_prepare_error (asked : node.blockhash journal.calls = .ok blockhash)
    (written : Payload.serialize payload = .ok data)
    (unsigned : prepare context [instructionOf target context data] blockhash = .error reason) :
    (invoke target context payload node journal).result = .error reason ∧
      (invoke target context payload node journal).journal.calls =
        journal.calls ++ [.blockhash] := by
  have failed : invokeSingle target context payload node journal =
      ⟨.error reason, journal.call .blockhash⟩ := by
    rw [invokeSingle_of_built asked (buildInstruction_of_serialize written),
      signAndSubmit_of_error unsigned]
  exact invoke_of_single_error failed

theorem invoke_of_serialize_error (asked : node.blockhash journal.calls = .ok blockhash)
    (unwritten : Payload.serialize payload = .error reason) :
    (invoke target context payload node journal).result = .error reason ∧
      (invoke target context payload node journal).journal.calls =
        journal.calls ++ [.blockhash] := by
  have unbuilt : buildInstruction target context payload = .error reason := by
    rw [buildInstruction, unwritten]
    rfl
  exact invoke_of_single_error (invokeSingle_of_unbuilt asked unbuilt)

end Invoke

/-- Once it has a blockhash, a call with one payload sends a transaction exactly if every account
that is flagged as a signer has a keypair and the transaction has at most 1232 bytes. It then sends
one, of that size. Otherwise it fails with nothing sent, and reports a missing signature only if an
account that is flagged as a signer has no keypair. -/
theorem sends_iff_signable_and_small (target : ProgramTarget) (context : CallContext K)
    (payload : P) (node : Node) (journal : Journal) (blockhash : Blockhash)
    (asked : node.blockhash journal.calls = .ok blockhash) :
    let outcome := invoke target context payload node journal
    (∀ data, Payload.serialize payload = .ok data →
      ∃ made, outcome.journal.calls = journal.calls ++ .blockhash :: made ∧
        ((∃ raw, .send raw ∈ made) ↔
          (∀ account ∈ context.accounts target, account.isSigner = true →
            account.key ∈ context.keys) ∧ context.transactionSize target data ≤ 1232) ∧
        (∀ raw, .send raw ∈ made →
          made = [.send raw] ∧ raw.length = context.transactionSize target data) ∧
        ((∀ raw, .send raw ∉ made) → made = [] ∧ ∃ reason, outcome.result = .error reason ∧
          ∀ text, reason = .signing text → ∃ account ∈ context.accounts target,
            account.isSigner = true ∧ account.key ∉ context.keys)) ∧
      ∀ reason, Payload.serialize payload = .error reason →
        outcome.result = .error reason ∧
          outcome.journal.calls = journal.calls ++ [.blockhash] := by
  intro outcome
  refine ⟨?_, fun reason unwritten => invoke_of_serialize_error asked unwritten⟩
  intro data written
  have possible := exists_prepare_instructionOf_iff target context blockhash data
  cases prepared : prepare context [instructionOf target context data] blockhash with
  | error reason =>
      obtain ⟨result, calls⟩ := invoke_of_prepare_error asked written prepared
      refine ⟨[], calls, ?_, by simp, ?_⟩
      · rw [prepared] at possible
        simpa [CallContext.Signable] using possible
      · intro _
        refine ⟨rfl, reason, result, ?_⟩
        rintro text rfl
        exact keyless_of_prepare_eq_signing prepared
  | ok signed =>
      obtain ⟨measured, small⟩ := measure_of_prepare prepared
      refine ⟨[.send signed.raw], invoke_calls_of_prepare asked written prepared, ?_, ?_, ?_⟩
      · have sent : ∃ raw, NodeCall.send raw ∈ [NodeCall.send signed.raw] :=
          ⟨_, List.mem_singleton_self _⟩
        exact iff_of_true sent (possible.mp ⟨signed, prepared⟩)
      · intro raw inside
        cases List.mem_singleton.mp inside
        exact ⟨rfl, measure_eq_transactionSize small measured⟩
      · intro unsent
        exact absurd (List.mem_singleton_self _) (unsent signed.raw)

/-- A value of 1023 bytes makes a transaction of 1232 bytes, which is sent; one byte more is one too
many, although everyone can sign. -/
theorem sends_iff_signable_and_small_at_limit :
    let target : ProgramTarget := ⟨Key.fill 10, Key.fill 11, none⟩
    let context : CallContext Stamp := ⟨⟨Key.fill 1⟩, [], []⟩
    let node : Node :=
      ⟨fun _ => .ok (FixedBytes.fill 32 42), fun _ _ => .ok "taken", fun _ => .zero⟩
    let value (count : Nat) := PortInstruction.attachValue (List.replicate count 0)
    node.blockhash [] = .ok (FixedBytes.fill 32 42) ∧
      (∃ raw, (invoke target context (value 1023) node .empty).journal.calls =
        [.blockhash, .send raw] ∧ raw.length = 1232) ∧
      (invoke target context (value 1024) node .empty).journal.calls = [.blockhash] ∧
      ∃ reason, (invoke target context (value 1024) node .empty).result = .error reason := by
  intro target context node value
  have asked : node.blockhash Journal.empty.calls = .ok (FixedBytes.fill 32 42) := rfl
  have signable : ∀ account ∈ context.accounts target, account.isSigner = true →
      account.key ∈ context.keys := by decide
  have size (count : Nat) : context.transactionSize target (value count).encode =
      202 + CompactLength.size (count + 5) + (count + 5) := by
    have named : (context.namedKeys target).card = 3 := by decide
    have signing : (context.signingKeys target).card = 1 := by decide
    have length : (value count).encode.length = count + 5 := by
      simp only [value, PortInstruction.encode, Borsh.writeByteString, List.length_cons,
        List.length_append, Bytes.length_littleEndian, List.length_replicate]
      omega
    rw [CallContext.transactionSize, named, signing, length]
    rfl
  refine ⟨rfl, ?_, ?_⟩
  · obtain ⟨made, calls, sends, once, _⟩ :=
      (sends_iff_signable_and_small target context (value 1023) node .empty _ asked).1 _ rfl
    obtain ⟨raw, inside⟩ := sends.mpr ⟨signable, by rw [size]; decide⟩
    obtain ⟨rfl, length⟩ := once raw inside
    exact ⟨raw, calls, by rw [length, size]; decide⟩
  · obtain ⟨made, calls, sends, _, refused⟩ :=
      (sends_iff_signable_and_small target context (value 1024) node .empty _ asked).1 _ rfl
    have large : ¬ context.transactionSize target (value 1024).encode ≤ 1232 := by
      rw [size]
      decide
    obtain ⟨rfl, reason, failed, _⟩ :=
      refused fun raw inside => large (sends.mp ⟨raw, inside⟩).2
    exact ⟨calls, reason, failed⟩

end Executor
end BridgeClient
