import BridgeClient.Ledger.Key
import BridgeClient.Proofs.Text.Base58

set_option autoImplicit false

/-!
Keys as text and as bytes. A key is read from the text that it is written as, and from no other. Of
keys packed one after the other the number is read off the length, and cutting the bytes into blocks
of 32 gives them back, so no two lists are packed alike.
-/
namespace BridgeClient.Key

/-- A text is read as a key if it is how that key is written. -/
theorem parse_eq_ok_iff {text : String} {key : Key} :
    parse text = .ok key ↔ text = key.toBase58 := by
  have decoded : Base58.decode text = .ok key.bytes.toList ↔ text = key.toBase58 := by
    rw [Base58.decode, Base58.decodeChars_eq_ok_iff, toBase58, Base58.encode, ← String.toList_inj,
      String.toList_ofList]
  rw [← decoded, parse]
  cases Base58.decode text with
  | error reason => simp
  | ok bytes =>
      rw [Except.ok.injEq, ← FixedBytes.ofList?_eq_some_iff]
      obtain ⟨bytesOfKey⟩ := key
      cases found : FixedBytes.ofList? 32 bytes <;> simp [found]

theorem parse_eq_error {text : String} {reason : BridgeError}
    (refused : parse text = .error reason) : ∃ message, reason = .invalidAddress message := by
  unfold parse at refused
  split at refused
  · cases refused
    exact ⟨_, rfl⟩
  · split at refused
    · cases refused
    · cases refused
      exact ⟨_, rfl⟩

@[simp] theorem pack_cons (key : Key) (keys : List Key) :
    pack (key :: keys) = key.bytes.toList ++ pack keys := by
  simp [pack]

@[simp] theorem length_pack (keys : List Key) : (pack keys).length = 32 * keys.length := by
  induction keys with
  | nil => rfl
  | cons key rest ih =>
      rw [pack_cons, List.length_append, ih, FixedBytes.length_toList, List.length_cons]
      omega

theorem pack_eq_flatMap (keys : List Key) :
    pack keys = (keys.map Key.bytes).flatMap fun piece => piece.toList := by
  rw [List.flatMap_map]
  rfl

/-- Packed keys, cut into blocks of 32 bytes. -/
def blocks (packed : Bytes) : List Bytes := Bytes.blocks 32 (packed.length / 32) packed

theorem blocks_pack (keys : List Key) :
    blocks (pack keys) = keys.map fun key => key.bytes.toList := by
  rw [blocks, length_pack, Nat.mul_div_cancel_left _ (by decide)]
  induction keys with
  | nil => rfl
  | cons key rest ih =>
      rw [pack_cons, List.length_cons, Bytes.blocks, List.take_left' key.bytes.length_toList,
        List.drop_left' key.bytes.length_toList, ih, List.map_cons]

theorem pack_injective : Function.Injective pack := by
  intro keys others same
  have blocked := blocks_pack keys
  rw [same, blocks_pack] at blocked
  refine (List.map_inj_right ?_).mp blocked.symm
  intro key other bytes
  cases key
  cases other
  exact congrArg Key.mk (FixedBytes.ext_toList bytes)

end BridgeClient.Key
