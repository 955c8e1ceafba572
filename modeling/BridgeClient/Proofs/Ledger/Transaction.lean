import BridgeClient.Ledger.Transaction
import BridgeClient.Proofs.Ledger.CompactLength
import BridgeClient.Proofs.Ledger.Key
import BridgeClient.Proofs.Sequencing

set_option autoImplicit false

/-!
Serializing in closed form. A message has one layout, which it is written in when every list in it
can be counted in sixteen bits; a transaction puts its signatures in front, and its size is known
before anyone signs.
-/
namespace BridgeClient

open Sequencing

namespace CompiledInstruction

/-- Both lists can be counted. -/
def Countable (instruction : CompiledInstruction) : Prop :=
  instruction.accountIndices.length < 65536 ∧ instruction.data.length < 65536

def layout (instruction : CompiledInstruction) : Bytes :=
  instruction.programIndex ::
    (CompactLength.groups instruction.accountIndices.length ++ (instruction.accountIndices ++
      (CompactLength.groups instruction.data.length ++ instruction.data)))

theorem serialize_eq_ok_iff {instruction : CompiledInstruction} {bytes : Bytes} :
    Message.serializeInstruction instruction = .ok bytes ↔
      instruction.Countable ∧ bytes = instruction.layout := by
  simp only [Message.serializeInstruction, bind_eq_ok_iff, CompactLength.encodeChecked_eq_ok_iff]
  constructor
  · intro written
    obtain ⟨accounts, ⟨few, rfl⟩, data, ⟨short, rfl⟩, whole⟩ := written
    cases whole
    exact ⟨⟨few, short⟩, rfl⟩
  · intro parts
    obtain ⟨⟨few, short⟩, rfl⟩ := parts
    exact ⟨_, ⟨few, rfl⟩, _, ⟨short, rfl⟩, rfl⟩

theorem length_layout {instruction : CompiledInstruction} (countable : instruction.Countable) :
    instruction.layout.length =
      1 + CompactLength.size instruction.accountIndices.length + instruction.accountIndices.length +
        CompactLength.size instruction.data.length + instruction.data.length := by
  simp only [layout, List.length_cons, List.length_append,
    CompactLength.length_groups countable.1, CompactLength.length_groups countable.2]
  omega

end CompiledInstruction

namespace Message

/-- Every list of the message can be counted. -/
structure Countable (message : Message) : Prop where
  keys : message.accountKeys.length < 65536
  instructions : message.instructions.length < 65536
  each : ∀ instruction ∈ message.instructions, instruction.Countable

/-- The counts, the keys, the blockhash and the instructions. -/
def layout (message : Message) : Bytes :=
  message.requiredSignatures :: message.readOnlySigned :: message.readOnlyUnsigned ::
    (CompactLength.groups message.accountKeys.length ++ (Key.pack message.accountKeys ++
      (message.blockhash.toList ++ (CompactLength.groups message.instructions.length ++
        (message.instructions.map CompiledInstruction.layout).flatten))))

theorem serialize_of_countable {message : Message} (countable : message.Countable) :
    message.serialize = .ok message.layout := by
  have instructions : message.instructions.mapM serializeInstruction =
      .ok (message.instructions.map CompiledInstruction.layout) :=
    mapM_eq_ok_map fun instruction inside =>
      CompiledInstruction.serialize_eq_ok_iff.mpr ⟨countable.each instruction inside, rfl⟩
  rw [serialize, CompactLength.encodeChecked_of_lt countable.keys,
    CompactLength.encodeChecked_of_lt countable.instructions, instructions]
  rfl

theorem countable_of_serialize {message : Message} {bytes : Bytes}
    (written : message.serialize = .ok bytes) : message.Countable := by
  simp only [serialize, bind_eq_ok_iff, CompactLength.encodeChecked_eq_ok_iff] at written
  obtain ⟨_, ⟨keys, _⟩, _, ⟨instructions, _⟩, layouts, walked, _⟩ := written
  refine ⟨keys, instructions, ?_⟩
  intro instruction inside
  rw [mapM_eq_ok_iff] at walked
  have step : serializeInstruction instruction ∈ layouts.map Except.ok :=
    walked ▸ List.mem_map_of_mem inside
  obtain ⟨bytes, _, same⟩ := List.mem_map.mp step
  exact (CompiledInstruction.serialize_eq_ok_iff.mp same.symm).1

theorem serialize_eq_ok_iff {message : Message} {bytes : Bytes} :
    message.serialize = .ok bytes ↔ message.Countable ∧ bytes = message.layout := by
  constructor
  · intro written
    have countable := countable_of_serialize written
    rw [serialize_of_countable countable] at written
    cases written
    exact ⟨countable, rfl⟩
  · intro parts
    obtain ⟨countable, rfl⟩ := parts
    exact serialize_of_countable countable

/-- With few enough keys and instructions, the error is that of the first instruction with a list
that cannot be counted. -/
theorem serialize_eq_error_iff {message : Message} {reason : BridgeError}
    (keys : message.accountKeys.length < 65536)
    (instructions : message.instructions.length < 65536) :
    message.serialize = .error reason ↔
      ∃ before instruction after, message.instructions = before ++ instruction :: after ∧
        (∀ other ∈ before, other.Countable) ∧ serializeInstruction instruction = .error reason := by
  have passes (other : CompiledInstruction) :
      (∃ bytes, serializeInstruction other = .ok bytes) ↔ other.Countable := by
    simp only [CompiledInstruction.serialize_eq_ok_iff, exists_and_left, exists_eq, and_true]
  have walk : message.serialize = .error reason ↔
      message.instructions.mapM serializeInstruction = .error reason := by
    rw [serialize, CompactLength.encodeChecked_of_lt keys,
      CompactLength.encodeChecked_of_lt instructions]
    cases message.instructions.mapM serializeInstruction <;>
      simp [bind, Except.bind, pure, Except.pure]
  rw [walk, mapM_eq_error_iff]
  simp only [passes]

end Message

namespace Message

theorem length_layout {message : Message} (countable : message.Countable) :
    message.layout.length =
      3 + CompactLength.size message.accountKeys.length + 32 * message.accountKeys.length + 32 +
        CompactLength.size message.instructions.length +
          (message.instructions.map CompiledInstruction.layout).flatten.length := by
  simp only [layout, List.length_cons, List.length_append, Key.length_pack,
    FixedBytes.length_toList, CompactLength.length_groups countable.keys,
    CompactLength.length_groups countable.instructions]
  omega

end Message

namespace Transaction

open CompactLength (groups size)

/-- The signatures, counted, and the message. -/
def layout (transaction : Transaction) : Bytes :=
  groups transaction.signatures.length ++
    ((transaction.signatures.flatMap fun signature => signature.bytes.toList) ++
      transaction.message.layout)

theorem serialize_eq_ok_iff {transaction : Transaction} {bytes : Bytes} :
    transaction.serialize = .ok bytes ↔
      transaction.message.Countable ∧ transaction.signatures.length < 65536 ∧
        bytes = transaction.layout := by
  simp only [serialize, bind_eq_ok_iff, CompactLength.encodeChecked_eq_ok_iff,
    Message.serialize_eq_ok_iff]
  constructor
  · intro written
    obtain ⟨message, ⟨countable, rfl⟩, count, ⟨few, rfl⟩, whole⟩ := written
    cases whole
    exact ⟨countable, few, rfl⟩
  · intro parts
    obtain ⟨countable, few, rfl⟩ := parts
    exact ⟨_, ⟨countable, rfl⟩, _, ⟨few, rfl⟩, rfl⟩

theorem length_signatures (signatures : List Signature) :
    (signatures.flatMap fun signature => signature.bytes.toList).length =
      64 * signatures.length := by
  induction signatures with
  | nil => rfl
  | cons signature rest ih =>
      rw [List.flatMap_cons, List.length_append, ih, FixedBytes.length_toList, List.length_cons]
      omega

/-- The size of a message once so many have signed it. -/
def signedSize (signers : Nat) (message : Message) : Nat :=
  size signers + 64 * signers + message.layout.length

theorem layout_le_of_signedSize_le {message : Message} {signers : Nat}
    (small : signedSize signers message ≤ maxSize) : message.layout.length ≤ maxSize := by
  unfold signedSize at small
  omega

theorem length_layout {transaction : Transaction} (few : transaction.signatures.length < 65536) :
    transaction.layout.length =
      signedSize transaction.signatures.length transaction.message := by
  simp only [layout, signedSize, List.length_append, length_signatures,
    CompactLength.length_groups few]
  omega

/-- A byte counts the signatures, so their compact length exists. -/
theorem requiredSignatures_lt (message : Message) :
    message.requiredSignatures.toNat < 65536 := by
  have byte := message.requiredSignatures.toNat_lt
  omega

theorem length_lt_of_slots {message : Message} {find? : Key → Option Signature}
    {ordered : List Signature} (filled : message.signerKeys.map find? = ordered.map some) :
    ordered.length < 65536 := by
  have slots := congrArg List.length filled
  have required := requiredSignatures_lt message
  simp only [List.length_map, Message.signerKeys, List.length_take] at slots
  omega

theorem wireSize_eq_ok_iff {message : Message} {size : Nat} :
    wireSize message = .ok size ↔
      message.Countable ∧ size = signedSize message.requiredSignatures.toNat message := by
  have few := requiredSignatures_lt message
  simp only [wireSize, bind_eq_ok_iff, CompactLength.encodeChecked_eq_ok_iff,
    Message.serialize_eq_ok_iff]
  constructor
  · intro measured
    obtain ⟨count, ⟨_, rfl⟩, bytes, ⟨countable, rfl⟩, whole⟩ := measured
    cases whole
    exact ⟨countable, by rw [CompactLength.length_groups few]; rfl⟩
  · intro parts
    obtain ⟨countable, rfl⟩ := parts
    refine ⟨_, ⟨few, rfl⟩, _, ⟨countable, rfl⟩, ?_⟩
    rw [CompactLength.length_groups few]
    rfl

theorem wireSize_eq_error_iff {message : Message} {reason : BridgeError} :
    wireSize message = .error reason ↔ message.serialize = .error reason := by
  have few := requiredSignatures_lt message
  rw [wireSize, CompactLength.encodeChecked_of_lt few]
  cases message.serialize <;> simp [bind, Except.bind, pure, Except.pure]

/-- The signature that a slot asks for. -/
def slot (signatures : SignatureMap) (key : Key) : Except BridgeError Signature :=
  match signatures.find? key with
  | some signature => .ok signature
  | none =>
      let text := key.toBase58
      .error (.signing s!"missing signature for {text}")

theorem slot_eq_ok_iff {signatures : SignatureMap} {key : Key} {signature : Signature} :
    slot signatures key = .ok signature ↔ signatures.find? key = some signature := by
  unfold slot
  cases signatures.find? key <;> simp

theorem slot_eq_error_iff {signatures : SignatureMap} {key : Key} {reason : BridgeError} :
    slot signatures key = .error reason ↔ signatures.find? key = none ∧
      reason = .signing s!"missing signature for {key.toBase58}" := by
  unfold slot
  cases signatures.find? key <;> simp [eq_comm]

theorem assemble_eq (message : Message) (signatures : SignatureMap) :
    assemble message signatures =
      (message.signerKeys.mapM (slot signatures) >>= fun ordered => .ok ⟨ordered, message⟩) := rfl

/-- Every slot holds the signature that the map has for its key. -/
theorem assemble_eq_ok_iff {message : Message} {signatures : SignatureMap}
    {transaction : Transaction} :
    assemble message signatures = .ok transaction ↔ transaction.message = message ∧
      message.signerKeys.map signatures.find? = transaction.signatures.map some := by
  have slots (keys : List Key) (ordered : List Signature) :
      keys.map (slot signatures) = ordered.map .ok ↔
        keys.map signatures.find? = ordered.map some := by
    induction keys generalizing ordered with
    | nil => cases ordered <;> simp
    | cons key rest ih => cases ordered <;> simp [slot_eq_ok_iff, ih]
  simp only [assemble_eq, bind_eq_ok_iff, mapM_eq_ok_iff, slots]
  constructor
  · intro assembled
    obtain ⟨ordered, filled, whole⟩ := assembled
    cases whole
    exact ⟨rfl, filled⟩
  · intro parts
    obtain ⟨rfl, filled⟩ := parts
    exact ⟨_, filled, rfl⟩

/-- The first slot without a signature is the error. -/
theorem assemble_eq_error_iff {message : Message} {signatures : SignatureMap}
    {reason : BridgeError} :
    assemble message signatures = .error reason ↔
      ∃ before key after, message.signerKeys = before ++ key :: after ∧
        (∀ other ∈ before, ∃ signature, signatures.find? other = some signature) ∧
        signatures.find? key = none ∧
        reason = .signing s!"missing signature for {key.toBase58}" := by
  have total : (∃ ordered, message.signerKeys.mapM (slot signatures) = .ok ordered ∧
      Except.ok (⟨ordered, message⟩ : Transaction) = .error reason) ↔ False := by
    simp
  simp only [assemble_eq, bind_eq_error_iff, total, or_false, mapM_eq_error_iff, slot_eq_ok_iff,
    slot_eq_error_iff]

theorem assemble_refuses {message : Message} {signatures : SignatureMap} {key : Key}
    (required : key ∈ message.signerKeys) (missing : signatures.find? key = none) :
    ∃ text, assemble message signatures = .error (.signing text) := by
  cases assembled : assemble message signatures with
  | ok transaction =>
      obtain ⟨_, filled⟩ := assemble_eq_ok_iff.mp assembled
      have slot : signatures.find? key ∈ transaction.signatures.map some :=
        filled ▸ List.mem_map_of_mem required
      rw [missing] at slot
      simp at slot
  | error reason =>
      obtain ⟨_, absent, _, _, _, _, rfl⟩ := assemble_eq_error_iff.mp assembled
      exact ⟨_, rfl⟩

end Transaction
end BridgeClient
