import BridgeClient.Proofs.Bytes
import BridgeClient.Wire.Operation

set_option autoImplicit false

/-!
The layout of swap operations bound for the ledger, in both directions: a string of 57 bytes or more
is read as the operation that its first 57 bytes write, bit for bit, and a written operation is read
back whatever follows it. Tags survive as bytes, so an action is read back as the one that its byte
names.
-/
namespace BridgeClient

namespace SwapOperation

theorem decodeFields?_eq_some_iff {bytes : Bytes} {id : FixedBytes 16} {amount : FixedBytes 8}
    {receiver : FixedBytes 32} :
    decodeFields? bytes = some (id, amount, receiver) ↔
      ∃ rest, bytes = id.toList ++ (amount.toList ++ (receiver.toList ++ rest)) := by
  constructor
  · intro found
    simp only [decodeFields?, Option.bind_eq_bind, Option.bind_eq_some_iff, Prod.exists,
      FixedBytes.split?_eq_some_iff, Option.pure_def, Option.some.injEq, Prod.mk.injEq] at found
    obtain ⟨_, _, rfl, _, _, rfl, _, rest, rfl, rfl, rfl, rfl⟩ := found
    exact ⟨rest, rfl⟩
  · rintro ⟨rest, rfl⟩
    simp only [decodeFields?, FixedBytes.split?_append, Option.bind_eq_bind, Option.bind_some]
    rfl

/-- Reading finds the fields of the layout behind the tag, and asks for nothing else. -/
theorem decode_eq_ok_iff {bytes : Bytes} {operation : SwapOperation} :
    decode bytes = .ok operation ↔
      ∃ tag id amount receiver rest, operation = ledger (Action.ofTag tag) id amount receiver ∧
        bytes = tag :: (id.toList ++ (amount.toBytes.toList ++ (receiver.toList ++ rest))) := by
  constructor
  · intro found
    cases bytes with
    | nil => cases found
    | cons tag fields =>
        rw [decode] at found
        split at found
        · rename_i id amount receiver fieldsFound
          cases found
          obtain ⟨rest, rfl⟩ := decodeFields?_eq_some_iff.mp fieldsFound
          refine ⟨tag, id, Binary64.ofBytes amount, receiver, rest, rfl, ?_⟩
          rw [Binary64.toBytes_ofBytes]
        · cases found
  · rintro ⟨tag, id, amount, receiver, rest, rfl, rfl⟩
    have fields : decodeFields? (id.toList ++ (amount.toBytes.toList ++ (receiver.toList ++ rest))) =
        some (id, amount.toBytes, receiver) := decodeFields?_eq_some_iff.mpr ⟨rest, rfl⟩
    simp only [decode, fields, Binary64.ofBytes_toBytes]

theorem length_encode_ledger (action : Action) (id : FixedBytes 16) (amount : Binary64)
    (receiver : FixedBytes 32) :
    (ledger action id amount receiver).encode.length = ledgerLength := by
  simp [encode, ledgerLength]

/-- What was read is what the first bytes of the string write. -/
theorem encode_of_decode {bytes : Bytes} {operation : SwapOperation}
    (found : decode bytes = .ok operation) :
    operation.target = .ledger ∧ operation.encode = bytes.take ledgerLength := by
  obtain ⟨tag, id, amount, receiver, rest, rfl, rfl⟩ := decode_eq_ok_iff.mp found
  have whole : tag :: (id.toList ++ (amount.toBytes.toList ++ (receiver.toList ++ rest))) =
      (ledger (Action.ofTag tag) id amount receiver).encode ++ rest := by
    simp only [encode, Action.tag_ofTag, List.cons_append, List.append_assoc]
  rw [whole]
  exact ⟨rfl, (List.take_left' (length_encode_ledger ..)).symm⟩

theorem decode_of_short {bytes : Bytes} (short : bytes.length < ledgerLength) :
    decode bytes = .error (.invalidFormat ledgerLength bytes.length) := by
  cases bytes with
  | nil => rfl
  | cons tag fields =>
      rw [decode]
      split
      · rename_i id amount receiver found
        obtain ⟨rest, rfl⟩ := decodeFields?_eq_some_iff.mp found
        simp only [List.length_cons, List.length_append, FixedBytes.length_toList,
          ledgerLength] at short
        omega
      · rfl

theorem exists_decode_of_long {bytes : Bytes} (long : ledgerLength ≤ bytes.length) :
    ∃ operation, decode bytes = .ok operation := by
  unfold ledgerLength at long
  cases bytes with
  | nil => exact absurd long (by decide)
  | cons tag fields =>
      rw [List.length_cons] at long
      obtain ⟨id, behindId, rfl⟩ := FixedBytes.exists_eq_append (show 16 ≤ fields.length by omega)
      rw [List.length_append, id.length_toList] at long
      obtain ⟨amount, behindAmount, rfl⟩ :=
        FixedBytes.exists_eq_append (show 8 ≤ behindId.length by omega)
      rw [List.length_append, amount.length_toList] at long
      obtain ⟨receiver, rest, rfl⟩ :=
        FixedBytes.exists_eq_append (show 32 ≤ behindAmount.length by omega)
      refine ⟨_, decode_eq_ok_iff.mpr
        ⟨tag, id, Binary64.ofBytes amount, receiver, rest, rfl, ?_⟩⟩
      rw [Binary64.toBytes_ofBytes]

theorem decode_encode_append (action : Action) (id : FixedBytes 16) (amount : Binary64)
    (receiver : FixedBytes 32) (rest : Bytes) :
    decode ((ledger action id amount receiver).encode ++ rest) =
      .ok (ledger (Action.ofTag action.tag) id amount receiver) := by
  refine decode_eq_ok_iff.mpr ⟨action.tag, id, amount, receiver, rest, rfl, ?_⟩
  simp only [encode, List.cons_append, List.append_assoc]

/-- Reading fails on the strings shorter than 57 bytes and on no others, what it reads from a longer
one is written as the first 57 bytes of it, and what was written is read back whatever follows, with
the action that its byte names. -/
theorem decode_inverts_encode :
    (∀ bytes : Bytes, bytes.length < 57 →
        decode bytes = .error (.invalidFormat 57 bytes.length)) ∧
      (∀ bytes : Bytes, 57 ≤ bytes.length → ∃ operation, decode bytes = .ok operation ∧
        operation.target = .ledger ∧ operation.encode = bytes.take 57) ∧
      ∀ (action : Action) (id : FixedBytes 16) (amount : Binary64) (receiver : FixedBytes 32)
        (rest : Bytes), decode ((ledger action id amount receiver).encode ++ rest) =
          .ok (ledger (Action.ofTag action.tag) id amount receiver) := by
  refine ⟨fun bytes short => decode_of_short short, ?_, decode_encode_append⟩
  intro bytes long
  obtain ⟨operation, found⟩ := exists_decode_of_long long
  obtain ⟨target, whole⟩ := encode_of_decode found
  exact ⟨operation, found, target, whole⟩

/-- A NaN with a payload keeps every bit, under a tag that names no action and with bytes behind. -/
theorem decode_inverts_encode_nan :
    let bytes : Bytes := 120 :: (List.replicate 16 1 ++ ([5, 0, 0, 0, 0, 0, 0xf4, 0xff] ++
      (List.replicate 32 2 ++ [9, 9])))
    let operation := ledger (.other 120) (FixedBytes.fill 16 1) ⟨0xfff4000000000005⟩
      (FixedBytes.fill 32 2)
    57 ≤ bytes.length ∧ (bytes.take 56).length < 57 ∧ decode bytes = .ok operation ∧
      operation.encode = bytes.take 57 ∧
      decode (bytes.take 56) = .error (.invalidFormat 57 56) := by
  intro bytes operation
  obtain ⟨refused, taken, again⟩ := decode_inverts_encode
  have long : 57 ≤ bytes.length := by decide
  have short : (bytes.take 56).length < 57 := by decide
  have split : bytes = operation.encode ++ [9, 9] := by decide
  have found : decode bytes = .ok operation := by
    rw [split]
    exact again (.other 120) (FixedBytes.fill 16 1) ⟨0xfff4000000000005⟩ (FixedBytes.fill 32 2) _
  obtain ⟨read, alsoFound, _, whole⟩ := taken bytes long
  cases found.symm.trans alsoFound
  exact ⟨long, short, found, whole, refused (bytes.take 56) short⟩

end SwapOperation
end BridgeClient
