import BridgeClient.Proofs.Ledger.Transaction

set_option autoImplicit false

/-!
Reading by the layout alone: the signatures and the message of a transaction as it was sent, and the
keys inside the bytes of a message. Each reads back what was written.
-/
namespace BridgeClient

namespace FixedBytes

/-- So many pieces of one width, and what is behind them. -/
def splitMany? (width : Nat) : Nat → Bytes → Option (List (FixedBytes width) × Bytes)
  | 0, bytes => some ([], bytes)
  | count + 1, bytes => do
      let (first, behind) ← split? width bytes
      let (others, rest) ← splitMany? width count behind
      return (first :: others, rest)

theorem splitMany?_append {width : Nat} (pieces : List (FixedBytes width)) (rest : Bytes) :
    splitMany? width pieces.length ((pieces.flatMap fun piece => piece.toList) ++ rest) =
      some (pieces, rest) := by
  induction pieces with
  | nil => rfl
  | cons first others ih =>
      rw [List.length_cons, List.flatMap_cons, List.append_assoc, splitMany?, split?_append]
      simp only [Option.bind_eq_bind, Option.bind_some, ih]
      rfl

end FixedBytes

namespace CompactLength

/-- A length and what is behind it. -/
def split? (bytes : Bytes) : Option (Nat × Bytes) :=
  match decode bytes with
  | .error _ => none
  | .ok (length, used) => some (length.toNat, bytes.drop used)

theorem split?_groups_append {n : Nat} (bound : n < 65536) (rest : Bytes) :
    split? (groups n ++ rest) = some (n, rest) := by
  have value : (UInt16.ofNat n).toNat = n := UInt16.toNat_ofNat_of_lt' bound
  rw [split?, decode_groups_append bound]
  simp only [value, List.drop_left]

end CompactLength

namespace Transaction

/-- The signatures and the message of a transaction as sent. -/
def split? (raw : Bytes) : Option (List Signature × Bytes) := do
  let (count, behind) ← CompactLength.split? raw
  let (signatures, message) ← FixedBytes.splitMany? 64 count behind
  return (signatures.map Signature.mk, message)

theorem split?_layout_append {transaction : Transaction}
    (few : transaction.signatures.length < 65536) (rest : Bytes) :
    split? (transaction.layout ++ rest) =
      some (transaction.signatures, transaction.message.layout ++ rest) := by
  have pieces : (transaction.signatures.flatMap fun signature => signature.bytes.toList) =
      (transaction.signatures.map Signature.bytes).flatMap fun piece => piece.toList := by
    rw [List.flatMap_map]
  have read := FixedBytes.splitMany?_append (transaction.signatures.map Signature.bytes)
    (transaction.message.layout ++ rest)
  rw [List.length_map, ← pieces] at read
  rw [split?, layout, List.append_assoc, List.append_assoc,
    CompactLength.split?_groups_append few]
  simp only [Option.bind_eq_bind, Option.bind_some, read]
  simp [Function.comp_def]

theorem split?_layout {transaction : Transaction} (few : transaction.signatures.length < 65536) :
    split? transaction.layout = some (transaction.signatures, transaction.message.layout) := by
  have read := split?_layout_append few []
  rwa [List.append_nil, List.append_nil] at read

end Transaction

namespace Message

/-- The account keys inside the bytes of a message. -/
def keys? (bytes : Bytes) : Option (List Key) := do
  let (count, behind) ← CompactLength.split? (bytes.drop 3)
  let (keys, _) ← FixedBytes.splitMany? 32 count behind
  return keys.map Key.mk

theorem keys?_layout {message : Message} (countable : message.Countable) :
    keys? message.layout = some message.accountKeys := by
  have read (rest : Bytes) := FixedBytes.splitMany?_append (message.accountKeys.map Key.bytes) rest
  simp only [List.length_map, ← Key.pack_eq_flatMap] at read
  simp only [keys?, layout, List.drop_succ_cons, List.drop_zero,
    CompactLength.split?_groups_append countable.keys, Option.bind_eq_bind, Option.bind_some, read]
  simp [Function.comp_def]

end Message
end BridgeClient
