import BridgeClient.Bytes

set_option autoImplicit false

/-!
Texts and their UTF-8 bytes. A text is read back from its bytes, and one in ASCII has a byte for
each character.
-/
namespace BridgeClient.Bytes

theorem loop_eq (bytes : ByteArray) (index : Nat) (taken : List UInt8) :
    ByteArray.toList.loop bytes index taken = taken.reverse ++ bytes.data.toList.drop index := by
  fun_induction ByteArray.toList.loop bytes index taken with
  | case1 index taken inside ih =>
      have within : index < bytes.data.toList.length := by simpa using inside
      rw [ih, List.drop_eq_getElem_cons within]
      simp [ByteArray.get!, inside]
  | case2 index taken outside =>
      rw [List.drop_eq_nil_of_le (by simpa using Nat.le_of_not_lt outside)]
      simp

theorem toList_eq_data (bytes : ByteArray) : bytes.toList = bytes.data.toList := by
  simp [ByteArray.toList, loop_eq]

theorem ofText_eq (text : String) : ofText text = text.toList.flatMap String.utf8EncodeChar := by
  rw [ofText, String.toUTF8_eq_toByteArray, ← String.utf8Encode_toList, toList_eq_data,
    List.utf8Encode, List.toList_data_toByteArray]

theorem ofText_ofList (cs : List Char) :
    ofText (String.ofList cs) = cs.flatMap String.utf8EncodeChar := by
  rw [ofText_eq, String.toList_ofList]

/-- A text is read back from its bytes. -/
theorem fromUTF8?_ofText (text : String) :
    String.fromUTF8? ⟨(ofText text).toArray⟩ = some text := by
  have bytes : (⟨(ofText text).toArray⟩ : ByteArray) = text.toByteArray := by
    rw [ofText, String.toUTF8_eq_toByteArray, toList_eq_data]
  rw [bytes, String.fromUTF8?, dif_pos text.isValidUTF8]
  rfl

theorem ofText_inj {text other : String} : ofText text = ofText other ↔ text = other := by
  constructor
  · intro same
    have read := fromUTF8?_ofText text
    rw [same, fromUTF8?_ofText] at read
    exact (Option.some.inj read).symm
  · rintro rfl
    rfl

/-- The character with the number of a byte. -/
theorem toNat_char (byte : UInt8) : (Char.ofNat byte.toNat).toNat = byte.toNat := by
  have valid : byte.toNat.isValidChar := Or.inl (Nat.lt_trans byte.toNat_lt (by decide))
  rw [Char.ofNat, dif_pos valid]
  rfl

theorem ofText_ofList_of_ascii {cs : List Char} (ascii : ∀ c ∈ cs, c.toNat < 128) :
    ofText (String.ofList cs) = cs.map fun c => UInt8.ofNat c.toNat := by
  rw [ofText_ofList]
  induction cs with
  | nil => rfl
  | cons c rest ih =>
      obtain ⟨here, later⟩ := List.forall_mem_cons.mp ascii
      have single : String.utf8EncodeChar c = [UInt8.ofNat c.toNat] := by
        rw [String.utf8EncodeChar_eq_singleton (Char.utf8Size_eq_one_iff.mpr ?_)]
        · rfl
        · exact UInt32.le_iff_toNat_le.mpr (Nat.le_of_lt_succ here)
      rw [List.flatMap_cons, ih later, single, List.map_cons, List.singleton_append]

/-- ASCII bytes make a text whose bytes they are. -/
theorem ofText_ofList_map_char {bytes : Bytes} (ascii : ∀ byte ∈ bytes, byte.toNat < 128) :
    ofText (String.ofList (bytes.map fun byte => Char.ofNat byte.toNat)) = bytes := by
  rw [ofText_ofList_of_ascii, List.map_map]
  · refine (List.map_congr_left fun byte _ => ?_).trans (List.map_id _)
    simp [toNat_char]
  · intro c inside
    obtain ⟨byte, among, rfl⟩ := List.mem_map.mp inside
    rw [toNat_char]
    exact ascii byte among

end BridgeClient.Bytes
