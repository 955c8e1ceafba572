set_option autoImplicit false

/-! Byte strings, byte strings of a fixed length, and the two byte orders of a number. -/
namespace BridgeClient

abbrev Bytes := List UInt8

/-- A byte string whose length is part of its type: a key, a hash, an identifier. -/
structure FixedBytes (n : Nat) where
  toList : Bytes
  length_eq : toList.length = n
deriving DecidableEq

namespace FixedBytes

variable {n : Nat}

theorem ext_toList {a b : FixedBytes n} (h : a.toList = b.toList) : a = b := by
  cases a; cases b; cases h; rfl

@[simp] theorem length_toList (a : FixedBytes n) : a.toList.length = n := a.length_eq

/-- The string itself, if it has the length asked for. -/
def ofList? (n : Nat) (bytes : Bytes) : Option (FixedBytes n) :=
  if h : bytes.length = n then some ⟨bytes, h⟩ else none

theorem ofList?_toList (a : FixedBytes n) : ofList? n a.toList = some a := by
  simp [ofList?]

theorem toList_of_ofList? {bytes : Bytes} {a : FixedBytes n} (h : ofList? n bytes = some a) :
    a.toList = bytes := by
  unfold ofList? at h
  split at h
  · cases h; rfl
  · cases h

/-- The same byte `n` times. -/
def fill (n : Nat) (byte : UInt8) : FixedBytes n := ⟨List.replicate n byte, by simp⟩

/-- The first `n` bytes of a string that has them, and the rest. -/
def split? (n : Nat) (bytes : Bytes) : Option (FixedBytes n × Bytes) :=
  if h : n ≤ bytes.length then
    some (⟨bytes.take n, by simp [h]⟩, bytes.drop n)
  else none

theorem split?_append (a : FixedBytes n) (rest : Bytes) :
    split? n (a.toList ++ rest) = some (a, rest) := by
  have h : n ≤ (a.toList ++ rest).length := by simp
  simp only [split?, h, dif_pos]
  congr 2
  · apply ext_toList; simp
  · simp

theorem eq_append_of_split? {bytes rest : Bytes} {a : FixedBytes n}
    (h : split? n bytes = some (a, rest)) : bytes = a.toList ++ rest := by
  unfold split? at h
  split at h
  · cases h; simp
  · cases h

theorem split?_eq_none_iff {bytes : Bytes} : split? n bytes = none ↔ bytes.length < n := by
  unfold split?
  split <;> simp <;> omega

/-- Concatenation adds the lengths. -/
def append {m : Nat} (a : FixedBytes m) (b : FixedBytes n) : FixedBytes (m + n) :=
  ⟨a.toList ++ b.toList, by simp⟩

/-- Byte by byte, the first difference decides. -/
def compareBytes : Bytes → Bytes → Ordering
  | [], [] => .eq
  | [], _ :: _ => .lt
  | _ :: _, [] => .gt
  | a :: as, b :: bs => (compare a.toNat b.toNat).then (compareBytes as bs)

instance : Ord (FixedBytes n) := ⟨fun a b => compareBytes a.toList b.toList⟩

end FixedBytes

namespace Bytes

/-- The number whose least significant byte comes first. -/
def ofLittleEndian : Bytes → Nat
  | [] => 0
  | b :: rest => b.toNat + 256 * ofLittleEndian rest

/-- The `width` low bytes of a number, least significant first. -/
def littleEndian : Nat → Nat → Bytes
  | 0, _ => []
  | width + 1, n => UInt8.ofNat (n % 256) :: littleEndian width (n / 256)

@[simp] theorem length_littleEndian (width n : Nat) : (littleEndian width n).length = width := by
  induction width generalizing n with
  | zero => rfl
  | succ width ih => simp [littleEndian, ih]

theorem ofLittleEndian_lt (bytes : Bytes) : ofLittleEndian bytes < Nat.pow 256 bytes.length := by
  induction bytes with
  | nil => simp [ofLittleEndian]
  | cons b rest ih =>
      have := b.toNat_lt
      have hp : Nat.pow 256 (rest.length + 1) = Nat.pow 256 rest.length * 256 := rfl
      simp only [ofLittleEndian, List.length_cons, hp]
      omega

theorem ofLittleEndian_littleEndian (width n : Nat) :
    ofLittleEndian (littleEndian width n) = n % Nat.pow 256 width := by
  induction width generalizing n with
  | zero => simp [littleEndian, ofLittleEndian, Nat.mod_one]
  | succ width ih =>
      have hb : (UInt8.ofNat (n % 256)).toNat = n % 256 := by
        simp
      have hp : Nat.pow 256 (width + 1) = 256 * Nat.pow 256 width := Nat.mul_comm _ _
      simp only [littleEndian, ofLittleEndian, ih, hb, hp]
      rw [Nat.mod_mul]

theorem littleEndian_ofLittleEndian (bytes : Bytes) :
    littleEndian bytes.length (ofLittleEndian bytes) = bytes := by
  induction bytes with
  | nil => rfl
  | cons b rest ih =>
      have hb := b.toNat_lt
      have hm : (b.toNat + 256 * ofLittleEndian rest) % 256 = b.toNat := by omega
      have hd : (b.toNat + 256 * ofLittleEndian rest) / 256 = ofLittleEndian rest := by omega
      simp [ofLittleEndian, littleEndian, hm, hd, ih]

/-- The number whose most significant byte comes first. -/
def ofBigEndian (bytes : Bytes) : Nat := ofLittleEndian bytes.reverse

/-- The `width` low bytes of a number, most significant first. -/
def bigEndian (width n : Nat) : Bytes := (littleEndian width n).reverse

@[simp] theorem length_bigEndian (width n : Nat) : (bigEndian width n).length = width := by
  simp [bigEndian]

/-- The first `count` pieces of the given size. -/
def blocks (size : Nat) : Nat → Bytes → List Bytes
  | 0, _ => []
  | count + 1, bytes => bytes.take size :: blocks size count (bytes.drop size)

/-- The bytes of an ASCII text. -/
def ofAscii (text : String) : Bytes := text.toList.map fun c => UInt8.ofNat c.toNat

/-- The UTF-8 bytes of a text. -/
def ofText (text : String) : Bytes := text.toUTF8.toList

/-- The text that bytes are in UTF-8, if they are one. -/
def toText? (bytes : Bytes) : Option String := String.fromUTF8? ⟨bytes.toArray⟩

/-- For each byte the character with its number. -/
def toChars (bytes : Bytes) : List Char := bytes.map fun byte => Char.ofNat byte.toNat

end Bytes
end BridgeClient
