import BridgeClient.Proofs.Ledger.Reading

set_option autoImplicit false

/-!
Reading a whole message and a whole transaction from the front of a byte string. Every list is as
long as the number in front of it says, so what was written is read back whatever follows, and two
written forms never begin alike. Writing is refused for a list that cannot be counted, and for
nothing else.
-/
namespace BridgeClient

open Sequencing

namespace CompactLength

/-- As many bytes as the length in front says, and what is behind them. -/
def splitBytes? (bytes : Bytes) : Option (Bytes × Bytes) := do
  let (count, behind) ← split? bytes
  if count ≤ behind.length then some (behind.take count, behind.drop count) else none

theorem splitBytes?_append {counted : Bytes} (bound : counted.length < 65536) (rest : Bytes) :
    splitBytes? (groups counted.length ++ (counted ++ rest)) = some (counted, rest) := by
  have enough : counted.length ≤ (counted ++ rest).length := by
    rw [List.length_append]
    exact Nat.le_add_right _ _
  rw [splitBytes?, split?_groups_append bound]
  simp only [Option.bind_eq_bind, Option.bind_some, enough, ↓reduceIte, List.take_left,
    List.drop_left]

end CompactLength

namespace CompiledInstruction

/-- The instruction in front, and what is behind it. -/
def split? : Bytes → Option (CompiledInstruction × Bytes)
  | [] => none
  | programIndex :: behind => do
      let (accountIndices, behind) ← CompactLength.splitBytes? behind
      let (data, rest) ← CompactLength.splitBytes? behind
      return (⟨programIndex, accountIndices, data⟩, rest)

theorem split?_layout_append {instruction : CompiledInstruction}
    (countable : instruction.Countable) (rest : Bytes) :
    split? (instruction.layout ++ rest) = some (instruction, rest) := by
  obtain ⟨few, short⟩ := countable
  simp only [layout, List.cons_append, List.append_assoc, split?,
    CompactLength.splitBytes?_append few, CompactLength.splitBytes?_append short,
    Option.bind_eq_bind, Option.bind_some]
  rfl

/-- So many instructions, and what is behind them. -/
def splitMany? : Nat → Bytes → Option (List CompiledInstruction × Bytes)
  | 0, bytes => some ([], bytes)
  | count + 1, bytes => do
      let (first, behind) ← split? bytes
      let (others, rest) ← splitMany? count behind
      return (first :: others, rest)

theorem splitMany?_append {instructions : List CompiledInstruction}
    (countable : ∀ instruction ∈ instructions, instruction.Countable) (rest : Bytes) :
    splitMany? instructions.length ((instructions.map layout).flatten ++ rest) =
      some (instructions, rest) := by
  induction instructions with
  | nil => rfl
  | cons first others ih =>
      obtain ⟨here, later⟩ := List.forall_mem_cons.mp countable
      rw [List.length_cons, List.map_cons, List.flatten_cons, List.append_assoc, splitMany?,
        split?_layout_append here]
      simp only [Option.bind_eq_bind, Option.bind_some, ih later]
      rfl

end CompiledInstruction

namespace Message

/-- The message in front, and what is behind it. -/
def split? : Bytes → Option (Message × Bytes)
  | requiredSignatures :: readOnlySigned :: readOnlyUnsigned :: behind => do
      let (keyCount, behind) ← CompactLength.split? behind
      let (keys, behind) ← FixedBytes.splitMany? 32 keyCount behind
      let (blockhash, behind) ← FixedBytes.split? 32 behind
      let (count, behind) ← CompactLength.split? behind
      let (instructions, rest) ← CompiledInstruction.splitMany? count behind
      return (⟨requiredSignatures, readOnlySigned, readOnlyUnsigned, keys.map Key.mk, blockhash,
        instructions⟩, rest)
  | _ => none

theorem split?_layout_append {message : Message} (countable : message.Countable) (rest : Bytes) :
    split? (message.layout ++ rest) = some (message, rest) := by
  have keys (behind : Bytes) :=
    FixedBytes.splitMany?_append (message.accountKeys.map Key.bytes) behind
  simp only [List.length_map, ← Key.pack_eq_flatMap] at keys
  simp only [layout, List.cons_append, List.append_assoc, split?,
    CompactLength.split?_groups_append countable.keys,
    CompactLength.split?_groups_append countable.instructions, keys, FixedBytes.split?_append,
    CompiledInstruction.splitMany?_append countable.each, Option.bind_eq_bind, Option.bind_some]
  simp [Function.comp_def]

/-- Some list of the message has more elements than a compact length counts. -/
def Overlong (message : Message) : Prop :=
  65535 < message.accountKeys.length ∨ 65535 < message.instructions.length ∨
    ∃ instruction ∈ message.instructions,
      65535 < instruction.accountIndices.length ∨ 65535 < instruction.data.length

theorem countable_iff_not_overlong {message : Message} :
    message.Countable ↔ ¬ message.Overlong := by
  simp only [Overlong, not_or, not_exists, not_and, Nat.not_lt]
  constructor
  · intro countable
    have keys := countable.keys
    have instructions := countable.instructions
    refine ⟨by omega, by omega, ?_⟩
    intro instruction inside
    obtain ⟨few, short⟩ := countable.each instruction inside
    exact ⟨by omega, by omega⟩
  · intro within
    obtain ⟨keys, instructions, each⟩ := within
    refine ⟨by omega, by omega, ?_⟩
    intro instruction inside
    obtain ⟨few, short⟩ := each instruction inside
    exact ⟨by omega, by omega⟩

theorem exists_serialize_error_iff {message : Message} :
    (∃ reason, message.serialize = .error reason) ↔ message.Overlong := by
  simp only [exists_error_iff, serialize_eq_ok_iff, exists_and_left, exists_eq, and_true,
    countable_iff_not_overlong, Classical.not_not]

end Message

namespace Transaction

/-- The transaction in front, and what is behind it. -/
def read? (raw : Bytes) : Option (Transaction × Bytes) := do
  let (signatures, behind) ← split? raw
  let (message, rest) ← Message.split? behind
  return (⟨signatures, message⟩, rest)

theorem read?_layout_append {transaction : Transaction}
    (countable : transaction.message.Countable) (few : transaction.signatures.length < 65536)
    (rest : Bytes) : read? (transaction.layout ++ rest) = some (transaction, rest) := by
  rw [read?, split?_layout_append few]
  simp only [Option.bind_eq_bind, Option.bind_some, Message.split?_layout_append countable]
  rfl

theorem exists_serialize_error_iff {transaction : Transaction} :
    (∃ reason, transaction.serialize = .error reason) ↔
      transaction.message.Overlong ∨ 65535 < transaction.signatures.length := by
  simp only [exists_error_iff, serialize_eq_ok_iff, exists_and_left, exists_eq, and_true,
    Message.countable_iff_not_overlong, Classical.not_and_iff_not_or_not, Classical.not_not]
  exact or_congr_right (by omega)

end Transaction

/-- A written form that is read back whatever follows is no beginning of another one. -/
theorem eq_of_append_eq {α : Type} {read? : Bytes → Option (α × Bytes)} {first second : α}
    {bytes others tail rest : Bytes} (one : read? (bytes ++ tail) = some (first, tail))
    (other : read? (others ++ rest) = some (second, rest))
    (same : bytes ++ tail = others ++ rest) : first = second ∧ tail = rest := by
  rw [same, other] at one
  cases one
  exact ⟨rfl, rfl⟩

/-- What is written is read back from the front of any byte string, so that two messages, and two
transactions, have written forms that never begin alike; and writing fails exactly when some list
has more than 65535 elements. -/
theorem serialize_uniquely_decodable :
    (∀ (message : Message) (bytes rest : Bytes), message.serialize = .ok bytes →
        Message.split? (bytes ++ rest) = some (message, rest)) ∧
      (∀ (transaction : Transaction) (bytes rest : Bytes), transaction.serialize = .ok bytes →
        Transaction.read? (bytes ++ rest) = some (transaction, rest)) ∧
      (∀ (first second : Message) (bytes others tail rest : Bytes),
        first.serialize = .ok bytes → second.serialize = .ok others →
          bytes ++ tail = others ++ rest → first = second ∧ tail = rest) ∧
      (∀ (first second : Transaction) (bytes others tail rest : Bytes),
        first.serialize = .ok bytes → second.serialize = .ok others →
          bytes ++ tail = others ++ rest → first = second ∧ tail = rest) ∧
      (∀ message : Message,
        (∃ reason, message.serialize = .error reason) ↔ message.Overlong) ∧
      ∀ transaction : Transaction, (∃ reason, transaction.serialize = .error reason) ↔
        transaction.message.Overlong ∨ 65535 < transaction.signatures.length := by
  have message_read (message : Message) (bytes rest : Bytes)
      (written : message.serialize = .ok bytes) :
      Message.split? (bytes ++ rest) = some (message, rest) := by
    obtain ⟨countable, rfl⟩ := Message.serialize_eq_ok_iff.mp written
    exact Message.split?_layout_append countable rest
  have transaction_read (transaction : Transaction) (bytes rest : Bytes)
      (written : transaction.serialize = .ok bytes) :
      Transaction.read? (bytes ++ rest) = some (transaction, rest) := by
    obtain ⟨countable, few, rfl⟩ := Transaction.serialize_eq_ok_iff.mp written
    exact Transaction.read?_layout_append countable few rest
  refine ⟨message_read, transaction_read, ?_, ?_, fun _ => Message.exists_serialize_error_iff,
    fun _ => Transaction.exists_serialize_error_iff⟩
  · intro first second bytes others tail rest written alsoWritten same
    exact eq_of_append_eq (message_read first bytes tail written)
      (message_read second others rest alsoWritten) same
  · intro first second bytes others tail rest written alsoWritten same
    exact eq_of_append_eq (transaction_read first bytes tail written)
      (transaction_read second others rest alsoWritten) same

/-- Only one message begins with these bytes, and it ends with them. -/
theorem serialize_uniquely_decodable_two_keys :
    let message : Message := ⟨1, 0, 1, [Key.fill 1, Key.fill 2], FixedBytes.fill 32 5,
      [⟨1, [], [0xaa, 0xbb]⟩]⟩
    let bytes : Bytes := [1, 0, 1, 2] ++ List.replicate 32 1 ++ List.replicate 32 2 ++
      List.replicate 32 5 ++ [1, 1, 0, 2, 0xaa, 0xbb]
    message.serialize = .ok bytes ∧ Message.split? (bytes ++ [7]) = some (message, [7]) ∧
      ∀ (other : Message) (tail : Bytes), other.serialize = .ok (bytes ++ tail) →
        other = message ∧ tail = [] := by
  intro message bytes
  have written : message.serialize = .ok bytes := by
    refine Message.serialize_eq_ok_iff.mpr ⟨⟨by decide, by decide, ?_⟩, by decide +kernel⟩
    intro instruction only
    cases List.mem_singleton.mp only
    exact ⟨by decide, by decide⟩
  obtain ⟨read, _, unique, _⟩ := serialize_uniquely_decodable
  refine ⟨written, read message bytes [7] written, ?_⟩
  intro other tail also
  have same : bytes ++ tail ++ [] = bytes ++ tail := List.append_nil _
  obtain ⟨found, ended⟩ := unique other message _ _ _ _ also written same
  exact ⟨found, ended.symm⟩

end BridgeClient
