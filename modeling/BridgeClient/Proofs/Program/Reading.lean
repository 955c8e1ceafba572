import BridgeClient.Program.Borsh
import BridgeClient.Proofs.Bytes
import Mathlib.Algebra.Group.Nat.Defs

set_option autoImplicit false

/-!
Readers of payloads, put together from their parts. What a reader takes off the front is what the
value is written as, and it looks no further than that: on a string that ends too early it runs out
of bytes. A reader of a whole payload with these two laws is strict.
-/
namespace BridgeClient.Borsh

variable {α β : Type}

namespace Reader

theorem bind_apply (first : Reader α) (next : α → Reader β) (bytes : Bytes) :
    (first >>= next : Reader β) bytes =
      match first bytes with
      | .ok (value, rest) => next value rest
      | .error fault => .error fault := rfl

@[simp] theorem pure_apply (value : α) (bytes : Bytes) :
    (Pure.pure value : Reader α) bytes = .ok (value, bytes) := rfl

@[simp] theorem fail_apply (fault : Fault) (bytes : Bytes) :
    (fail fault : Reader α) bytes = .error fault := rfl

theorem bind_eq_ok_iff {first : Reader α} {next : α → Reader β} {bytes rest : Bytes} {value : β} :
    (first >>= next : Reader β) bytes = .ok (value, rest) ↔
      ∃ a behind, first bytes = .ok (a, behind) ∧ next a behind = .ok (value, rest) := by
  rw [bind_apply]
  constructor
  · intro found
    split at found
    · rename_i a behind front
      exact ⟨a, behind, front, found⟩
    · cases found
  · rintro ⟨a, behind, front, found⟩
    rw [front]
    exact found

/-- A reader looks no further than the bytes it takes. On the beginning of a string that it reads, it
finds the same value, or it runs out of bytes. -/
def Sequential (reader : Reader α) : Prop :=
  ∀ ⦃front back : Bytes⦄ ⦃value : α⦄ ⦃rest : Bytes⦄,
    reader (front ++ back) = .ok (value, rest) →
      (∃ left, rest = left ++ back ∧ reader front = .ok (value, left)) ∨
        reader front = .error .shortInput

namespace Sequential

theorem pure (value : α) : Sequential (Pure.pure value : Reader α) := by
  intro front back found rest read
  cases read
  exact Or.inl ⟨front, rfl, rfl⟩

theorem fail (fault : Fault) : Sequential (Reader.fail fault : Reader α) := by
  intro front back value rest read
  cases read

theorem bind {first : Reader α} {next : α → Reader β} (one : Sequential first)
    (others : ∀ a, Sequential (next a)) : Sequential (first >>= next) := by
  intro front back value rest read
  obtain ⟨a, behind, begun, ended⟩ := bind_eq_ok_iff.mp read
  rcases one begun with ⟨left, rfl, found⟩ | short
  · simp only [bind_apply, found]
    exact others a ended
  · right
    rw [bind_apply, short]

theorem ite {condition : Prop} [Decidable condition] {yes no : Reader α} (one : Sequential yes)
    (other : Sequential no) : Sequential (if condition then yes else no) := by
  split
  · exact one
  · exact other

end Sequential
end Reader

open Reader

/-! The parts of a payload. -/

section Parts

variable {bytes rest : Bytes}

@[simp] theorem byte_cons (value : UInt8) (rest : Bytes) :
    byte (value :: rest) = .ok (value, rest) := rfl

@[simp] theorem byte_eq_ok_iff {value : UInt8} : byte bytes = .ok (value, rest) ↔ bytes = value :: rest := by
  cases bytes <;> simp [byte]

theorem sequential_byte : Sequential byte := by
  intro front back value rest read
  cases front with
  | nil => exact Or.inr rfl
  | cons first others =>
      cases read
      exact Or.inl ⟨others, rfl, rfl⟩

@[simp] theorem fixed_eq_ok_iff {n : Nat} {piece : FixedBytes n} :
    fixed n bytes = .ok (piece, rest) ↔ bytes = piece.toList ++ rest := by
  rw [← FixedBytes.split?_eq_some_iff, fixed]
  split <;> simp [*]

@[simp] theorem fixed_append {n : Nat} (piece : FixedBytes n) (rest : Bytes) :
    fixed n (piece.toList ++ rest) = .ok (piece, rest) := fixed_eq_ok_iff.mpr rfl

theorem sequential_fixed (n : Nat) : Sequential (fixed n) := by
  intro front back piece rest read
  rcases Nat.lt_or_ge front.length n with short | long
  · have absent := FixedBytes.split?_eq_none_iff.mpr short
    right
    rw [fixed, absent]
  · obtain ⟨found, left, rfl⟩ := FixedBytes.exists_eq_append long
    rw [fixed_eq_ok_iff, List.append_assoc, FixedBytes.append_eq_append_iff] at read
    obtain ⟨rfl, rfl⟩ := read
    exact Or.inl ⟨left, rfl, fixed_append found left⟩

@[simp] theorem key_eq_ok_iff {value : Key} :
    key bytes = .ok (value, rest) ↔ bytes = writeKey value ++ rest := by
  rw [key, bind_eq_ok_iff]
  simp only [fixed_eq_ok_iff, pure_apply, Except.ok.injEq, Prod.mk.injEq]
  constructor
  · rintro ⟨piece, behind, rfl, rfl, rfl⟩
    rfl
  · rintro rfl
    exact ⟨value.bytes, rest, rfl, rfl, rfl⟩

@[simp] theorem key_append (value : Key) (rest : Bytes) :
    key (writeKey value ++ rest) = .ok (value, rest) := key_eq_ok_iff.mpr rfl

theorem sequential_key : Sequential key :=
  (sequential_fixed 32).bind fun _ => Sequential.pure _

@[simp] theorem length_writeWord64 (value : UInt64) : (writeWord64 value).length = 8 :=
  Bytes.length_littleEndian 8 value.toNat

@[simp] theorem word64_eq_ok_iff {value : UInt64} :
    word64 bytes = .ok (value, rest) ↔ bytes = writeWord64 value ++ rest := by
  rw [word64, bind_eq_ok_iff]
  simp only [fixed_eq_ok_iff, pure_apply, Except.ok.injEq, Prod.mk.injEq,
    FixedBytes.ofNat_ofLittleEndian_eq_iff]
  constructor
  · rintro ⟨piece, behind, rfl, written, rfl⟩
    rw [written, writeWord64]
  · rintro rfl
    exact ⟨⟨writeWord64 value, length_writeWord64 value⟩, rest, rfl, rfl, rfl⟩

@[simp] theorem word64_append (value : UInt64) (rest : Bytes) :
    word64 (writeWord64 value ++ rest) = .ok (value, rest) := word64_eq_ok_iff.mpr rfl

theorem sequential_word64 : Sequential word64 :=
  (sequential_fixed 8).bind fun _ => Sequential.pure _

/-- A byte string is read where it stands behind its length, if four bytes hold the length. -/
@[simp] theorem byteString_eq_ok_iff {value : Bytes} :
    byteString bytes = .ok (value, rest) ↔
      value.length < 2 ^ 32 ∧ bytes = writeByteString value ++ rest := by
  have width : Nat.pow 256 4 = 2 ^ 32 := by decide
  rw [byteString, bind_eq_ok_iff]
  simp only [fixed_eq_ok_iff, bind_eq_ok_iff, pure_apply, Except.ok.injEq, Prod.mk.injEq]
  constructor
  · rintro ⟨length, behind, rfl, piece, left, rfl, rfl, rfl⟩
    have small := Bytes.ofLittleEndian_lt length.toList
    rw [length.length_toList, width] at small
    rw [piece.length_toList, writeByteString, piece.length_toList,
      FixedBytes.littleEndian_ofLittleEndian, List.append_assoc]
    exact ⟨small, rfl⟩
  · rintro ⟨small, rfl⟩
    let length : FixedBytes 4 := ⟨Bytes.littleEndian 4 value.length, Bytes.length_littleEndian ..⟩
    have counted : value.length = Bytes.ofLittleEndian length.toList := by
      rw [Bytes.ofLittleEndian_littleEndian, width, Nat.mod_eq_of_lt small]
    exact ⟨length, value ++ rest, List.append_assoc .., ⟨value, counted⟩, rest, rfl, rfl, rfl⟩

theorem byteString_append {value : Bytes} (small : value.length < 2 ^ 32) (rest : Bytes) :
    byteString (writeByteString value ++ rest) = .ok (value, rest) :=
  byteString_eq_ok_iff.mpr ⟨small, rfl⟩

theorem sequential_byteString : Sequential byteString :=
  (sequential_fixed 4).bind fun _ => (sequential_fixed _).bind fun _ => Sequential.pure _

end Parts

/-- Payloads that can be counted are read back from what they are written as, nothing else is read,
and a payload with bytes missing or left over is refused with the text that says so. -/
structure Strict (Countable : α → Prop) (encode : α → Bytes)
    (decode : Bytes → Except Fault α) : Prop where
  roundTrip : ∀ value, Countable value → decode (encode value) = .ok value
  canonical : ∀ bytes value, decode bytes = .ok value → Countable value ∧ encode value = bytes
  cut : ∀ value, Countable value → ∀ front back, encode value = front ++ back → back ≠ [] →
    (decode front).mapError Fault.message = .error "Unexpected length of input"
  extended : ∀ value, Countable value → ∀ extra, extra ≠ [] →
    (decode (encode value ++ extra)).mapError Fault.message = .error "Not all bytes read"

theorem whole_eq_ok_iff {reader : Reader α} {bytes : Bytes} {value : α} :
    reader.whole bytes = .ok value ↔ reader bytes = .ok (value, []) := by
  unfold whole
  split <;> simp [*]

/-- A sequential reader that takes what is written, and nothing else, makes a strict one. -/
theorem strict_of_read {Countable : α → Prop} {encode : α → Bytes} {reader : Reader α}
    (read : ∀ {bytes rest value}, reader bytes = .ok (value, rest) ↔
      Countable value ∧ bytes = encode value ++ rest)
    (sequential : Sequential reader) : Strict Countable encode reader.whole := by
  refine ⟨?_, ?_, ?_, ?_⟩
  · intro value countable
    exact whole_eq_ok_iff.mpr (read.mpr ⟨countable, (List.append_nil _).symm⟩)
  · intro bytes value found
    obtain ⟨countable, rfl⟩ := read.mp (whole_eq_ok_iff.mp found)
    exact ⟨countable, (List.append_nil _).symm⟩
  · intro value countable front back split missing
    have found : reader (front ++ back) = .ok (value, []) := by
      rw [← split]
      exact read.mpr ⟨countable, (List.append_nil _).symm⟩
    rcases sequential found with ⟨left, nothing, _⟩ | short
    · exact absurd (List.append_eq_nil_iff.mp nothing.symm).2 missing
    · rw [whole, short]
      rfl
  · intro value countable extra more
    have found : reader (encode value ++ extra) = .ok (value, extra) :=
      read.mpr ⟨countable, rfl⟩
    obtain ⟨first, others, rfl⟩ := List.exists_cons_of_ne_nil more
    rw [whole, found]
    rfl

end BridgeClient.Borsh
