import BridgeClient.Bytes
import BridgeClient.Number.Radix

set_option autoImplicit false

/-!
Byte strings laid one after the other: a piece of known length is taken off the front in one way,
and eight bytes are one word in one way. Bytes are also digits, to the base 256.
-/
namespace BridgeClient

namespace Bytes

theorem ofLittleEndian_eq_ofDigits (bytes : Bytes) :
    ofLittleEndian bytes = Radix.ofDigits 256 (bytes.map UInt8.toNat) := by
  induction bytes with
  | nil => rfl
  | cons b bytes ih => rw [ofLittleEndian, ih, List.map_cons, Radix.ofDigits]

theorem map_toNat_map_ofNat {digits : List Nat} (small : ∀ d ∈ digits, d < 256) :
    (digits.map UInt8.ofNat).map UInt8.toNat = digits := by
  rw [List.map_map]
  refine (List.map_congr_left ?_).trans (List.map_id _)
  intro d inside
  exact UInt8.toNat_ofNat_of_lt' (small d inside)

theorem map_ofNat_map_toNat (bytes : Bytes) : (bytes.map UInt8.toNat).map UInt8.ofNat = bytes := by
  simp [Function.comp_def]

end Bytes

namespace FixedBytes

variable {n : Nat}

theorem ofList?_eq_some_iff {bytes : Bytes} {piece : FixedBytes n} :
    ofList? n bytes = some piece ↔ bytes = piece.toList := by
  constructor
  · intro found
    exact (toList_of_ofList? found).symm
  · rintro rfl
    exact ofList?_toList piece

theorem append_eq_append_iff {a b : FixedBytes n} {x y : Bytes} :
    a.toList ++ x = b.toList ++ y ↔ a = b ∧ x = y := by
  rw [List.append_eq_append_iff_of_size_eq_left (by simp)]
  exact and_congr_left fun _ => ⟨ext_toList, congrArg toList⟩

theorem split?_eq_some_iff {bytes rest : Bytes} {piece : FixedBytes n} :
    split? n bytes = some (piece, rest) ↔ bytes = piece.toList ++ rest := by
  constructor
  · exact eq_append_of_split?
  · rintro rfl
    exact split?_append piece rest

/-- A string that is long enough begins with a piece. -/
theorem exists_eq_append {bytes : Bytes} (long : n ≤ bytes.length) :
    ∃ (piece : FixedBytes n) (rest : Bytes), bytes = piece.toList ++ rest :=
  ⟨⟨bytes.take n, by simp [long]⟩, bytes.drop n, (List.take_append_drop n bytes).symm⟩

theorem littleEndian_ofLittleEndian (bytes : FixedBytes n) :
    Bytes.littleEndian n (Bytes.ofLittleEndian bytes.toList) = bytes.toList := by
  have whole := Bytes.littleEndian_ofLittleEndian bytes.toList
  rwa [bytes.length_toList] at whole

/-- Eight bytes make the word that is written as these bytes. -/
theorem ofNat_ofLittleEndian_eq_iff {piece : FixedBytes 8} {value : UInt64} :
    UInt64.ofNat (Bytes.ofLittleEndian piece.toList) = value ↔
      piece.toList = Bytes.littleEndian 8 value.toNat := by
  have small : Bytes.ofLittleEndian piece.toList < UInt64.size := by
    simpa using Bytes.ofLittleEndian_lt piece.toList
  rw [← UInt64.toNat_inj, UInt64.toNat_ofNat_of_lt' small]
  constructor
  · intro same
    rw [← same]
    exact piece.littleEndian_ofLittleEndian.symm
  · intro written
    have width : Nat.pow 256 8 = UInt64.size := by decide
    rw [written, Bytes.ofLittleEndian_littleEndian, width]
    exact Nat.mod_eq_of_lt value.toNat_lt_size

end FixedBytes
end BridgeClient
