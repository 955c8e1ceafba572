import BridgeClient.Proofs.Ledger.TokenAccount

set_option autoImplicit false

/-!
Which byte strings are token accounts. Only the length, the state and the tags of the three options
are looked at, and nothing behind the account is read.
-/
namespace BridgeClient

open Sequencing

theorem TokenAccountState.exists_ofTag?_iff {tag : UInt8} :
    (∃ state, ofTag? tag = some state) ↔ tag ≤ 2 := by
  constructor
  · rintro ⟨state, known⟩
    rw [ofTag?_eq_some_iff] at known
    subst known
    cases state <;> decide
  · intro small
    have bound : tag.toNat ≤ 2 := UInt8.le_iff_toNat_le.mp small
    have cases_of_small : tag = uninitialized.tag ∨ tag = initialized.tag ∨ tag = frozen.tag := by
      simp only [TokenAccountState.tag, ← UInt8.toNat_inj, UInt8.reduceToNat]
      omega
    rcases cases_of_small with same | same | same
    · exact ⟨uninitialized, ofTag?_eq_some_iff.mpr same⟩
    · exact ⟨initialized, ofTag?_eq_some_iff.mpr same⟩
    · exact ⟨frozen, ofTag?_eq_some_iff.mpr same⟩

namespace TokenAccount

variable {bytes : Bytes} {offset n : Nat}

section Layout

variable {m : Nat}

/-- An option as a tag, which is 0 or 1, and a payload in both cases. -/
def optionPart (value : Option (FixedBytes m)) (filler : FixedBytes m) : Bytes :=
  Bytes.littleEndian 4 value.isSome.toNat ++ (value.getD filler).toList

theorem packOptional_eq (value : Option (FixedBytes m)) (filler : FixedBytes m) :
    packOptional value filler = optionPart value filler := by
  have absent : Bytes.littleEndian 4 0 = [0, 0, 0, 0] := by decide
  have present : Bytes.littleEndian 4 1 = [1, 0, 0, 0] := by decide
  cases value <;> simp [packOptional, optionPart, absent, present]

/-- The eight parts of a packed account. -/
def parts (account : TokenAccount) (filler : Filler) : List Bytes :=
  [account.mint.bytes.toList, account.owner.bytes.toList,
    Bytes.littleEndian 8 account.amount.toNat,
    optionPart (account.delegate.map Key.bytes) filler.delegate,
    [account.state.tag],
    optionPart (account.isNative.map wordBytes) filler.native,
    Bytes.littleEndian 8 account.delegatedAmount.toNat,
    optionPart (account.closeAuthority.map Key.bytes) filler.closeAuthority]

theorem pack_eq_flatten (account : TokenAccount) (filler : Filler) :
    account.pack filler = (account.parts filler).flatten := by
  simp [pack, parts, packOptional_eq, wordBytes]

theorem map_length_parts (account : TokenAccount) (filler : Filler) :
    (account.parts filler).map List.length = [32, 32, 8, 4 + 32, 1, 4 + 8, 8, 4 + 32] := by
  simp [parts, optionPart]

end Layout

section Acceptance

theorem tag_cases {tag : FixedBytes 4} :
    Bytes.ofLittleEndian tag.toList ≤ 1 ↔
      tag.toList = [0, 0, 0, 0] ∨ tag.toList = [1, 0, 0, 0] := by
  constructor
  · intro small
    rw [← tag.littleEndian_ofLittleEndian]
    rcases Nat.le_one_iff_eq_zero_or_eq_one.mp small with absent | present
    · rw [absent]
      exact Or.inl (by decide)
    · rw [present]
      exact Or.inr (by decide)
  · rintro (absent | present)
    · rw [absent]
      decide
    · rw [present]
      decide

theorem exists_optional_iff {α : Type} {tag : FixedBytes 4} {payload : α} :
    (∃ value, optional tag payload = .ok value) ↔ Bytes.ofLittleEndian tag.toList ≤ 1 := by
  rw [tag_cases]
  unfold optional
  split
  · simp [*]
  · split <;> simp [*]

/-- What decides whether a string is an account: its length, its state and its three tags. -/
structure Acceptable (bytes : Bytes) : Prop where
  long : 165 ≤ bytes.length
  state : ∃ tag, bytes[108]? = some tag ∧ tag ≤ 2
  tags : ∀ offset ∈ [72, 109, 129], Bytes.ofLittleEndian ((bytes.drop offset).take 4) ≤ 1

theorem exists_read?_iff : (∃ fields, Fields.read? bytes = some fields) ↔ 165 ≤ bytes.length := by
  constructor
  · rintro ⟨fields, found⟩
    rw [Fields.eq_append_of_read? found, List.length_append, Fields.length_toBytes]
    exact Nat.le_add_right _ _
  · exact Fields.exists_read?

/-- What is read stands at its offset. -/
theorem eq_take_of_slice? {piece : FixedBytes n} (found : slice? bytes offset n = some piece) :
    piece.toList = (bytes.drop offset).take n :=
  FixedBytes.toList_of_ofList? found

theorem exists_packed_iff {α : Type} {wrap : FixedBytes n → α} {unwrap : α → FixedBytes n}
    (inverse : ∀ {payload value}, wrap payload = value ↔ payload = unwrap value)
    {tag : FixedBytes 4} {payload : FixedBytes n} :
    (∃ (value : Option α) (filler : FixedBytes n),
      tag.toList ++ payload.toList = packOptional (value.map unwrap) filler) ↔
        Bytes.ofLittleEndian tag.toList ≤ 1 := by
  rw [← @exists_optional_iff α tag (wrap payload)]
  simp only [optional_eq_ok_iff inverse]

theorem exists_hold_iff {fields : Fields} :
    (∃ account filler, fields.Hold account filler) ↔
      (∃ state : TokenAccountState, fields.state.toList = [state.tag]) ∧
        Bytes.ofLittleEndian fields.delegateTag.toList ≤ 1 ∧
        Bytes.ofLittleEndian fields.nativeTag.toList ≤ 1 ∧
        Bytes.ofLittleEndian fields.closeTag.toList ≤ 1 := by
  constructor
  · rintro ⟨account, filler, hold⟩
    exact ⟨⟨_, hold.state⟩, (exists_packed_iff key_eq_iff).mp ⟨_, _, hold.delegate⟩,
      (exists_packed_iff word_eq_iff).mp ⟨_, _, hold.isNative⟩,
      (exists_packed_iff key_eq_iff).mp ⟨_, _, hold.closeAuthority⟩⟩
  · rintro ⟨⟨state, known⟩, first, second, third⟩
    obtain ⟨delegate, delegateFiller, atDelegate⟩ := (exists_packed_iff key_eq_iff).mpr first
    obtain ⟨native, nativeFiller, atNative⟩ := (exists_packed_iff word_eq_iff).mpr second
    obtain ⟨close, closeFiller, atClose⟩ := (exists_packed_iff key_eq_iff).mpr third
    exact ⟨⟨⟨fields.mint⟩, ⟨fields.owner⟩, word fields.amount, delegate, state, native,
        word fields.delegatedAmount, close⟩, ⟨delegateFiller, nativeFiller, closeFiller⟩,
      rfl, rfl, word_eq_iff.mp rfl, atDelegate, known, atNative, word_eq_iff.mp rfl, atClose⟩

/-- The state and the tags of what was read, by their places in the string. -/
theorem acceptable_iff_of_read? {fields : Fields} (found : Fields.read? bytes = some fields) :
    Acceptable bytes ↔
      (∃ state : TokenAccountState, fields.state.toList = [state.tag]) ∧
        Bytes.ofLittleEndian fields.delegateTag.toList ≤ 1 ∧
        Bytes.ofLittleEndian fields.nativeTag.toList ≤ 1 ∧
        Bytes.ofLittleEndian fields.closeTag.toList ≤ 1 := by
  have long : 165 ≤ bytes.length := exists_read?_iff.mp ⟨fields, found⟩
  simp only [Fields.read?, Option.bind_eq_bind, Option.bind_eq_some_iff, Option.pure_def,
    Option.some.injEq] at found
  obtain ⟨_, -, _, -, _, -, delegateTag, atDelegateTag, _, -, state, atState, nativeTag,
    atNativeTag, _, -, _, -, closeTag, atCloseTag, _, -, rfl⟩ := found
  have byte : state.toList = [bytes[108]] := by
    rw [eq_take_of_slice? atState, List.drop_eq_getElem_cons (by omega)]
    rfl
  have known : (∃ state : TokenAccountState, [bytes[108]] = [state.tag]) ↔ bytes[108] ≤ 2 := by
    rw [← TokenAccountState.exists_ofTag?_iff]
    simp only [List.cons.injEq, and_true, TokenAccountState.ofTag?_eq_some_iff]
  rw [byte, known, eq_take_of_slice? atDelegateTag, eq_take_of_slice? atNativeTag,
    eq_take_of_slice? atCloseTag]
  constructor
  · rintro ⟨-, ⟨tag, here, small⟩, tags⟩
    rw [List.getElem?_eq_getElem (by omega)] at here
    cases here
    exact ⟨small, tags 72 (by simp), tags 109 (by simp), tags 129 (by simp)⟩
  · rintro ⟨small, delegate, native, close⟩
    refine ⟨long, ⟨bytes[108], List.getElem?_eq_getElem (by omega), small⟩, ?_⟩
    simpa using ⟨delegate, native, close⟩

theorem exists_unpack_iff : (∃ account, unpack bytes = .ok account) ↔ Acceptable bytes := by
  simp only [unpack_eq_ok_iff_hold]
  constructor
  · rintro ⟨account, fields, found, hold⟩
    rw [acceptable_iff_of_read? found, ← exists_hold_iff]
    exact ⟨account, hold⟩
  · intro acceptable
    obtain ⟨fields, found⟩ := exists_read?_iff.mpr acceptable.long
    rw [acceptable_iff_of_read? found, ← exists_hold_iff] at acceptable
    obtain ⟨account, hold⟩ := acceptable
    exact ⟨account, fields, found, hold⟩

end Acceptance

section Extent

theorem slice?_append {front rest : Bytes} (inside : offset + n ≤ front.length) :
    slice? (front ++ rest) offset n = slice? front offset n := by
  rw [slice?, slice?, List.drop_append_of_le_length (by omega), List.take_append_of_le_length]
  rw [List.length_drop]
  omega

/-- Nothing is read from behind the account. -/
theorem unpack_append {front : Bytes} (whole : front.length = 165) (rest : Bytes) :
    unpack (front ++ rest) = unpack front := by
  have piece (offset n : Nat) (inside : offset + n ≤ 165) :
      slice? (front ++ rest) offset n = slice? front offset n :=
    slice?_append (whole ▸ inside)
  have same : Fields.read? (front ++ rest) = Fields.read? front := by
    simp [Fields.read?, piece]
  obtain ⟨fields, found⟩ := exists_read?_iff.mpr (Nat.le_of_eq whole.symm)
  rw [unpack, unpack, same, found]

/-- A string that is too short is refused before anything is read. -/
theorem unpack_of_short (short : bytes.length < 165) :
    unpack bytes = .error (.invalidFormat 165 bytes.length) := by
  cases found : Fields.read? bytes with
  | none =>
      rw [unpack, found]
      rfl
  | some fields => exact absurd (exists_read?_iff.mp ⟨fields, found⟩) (Nat.not_le.mpr short)

end Extent

/-- Unpacking accepts the strings that are long enough and whose state and tags are known. These are
the eight parts of the account that it returns, with any payloads behind absent options, and anything
behind them, which is not read. -/
theorem unpack_accepts_layout :
    (∀ bytes, (∃ account, unpack bytes = .ok account) ↔ Acceptable bytes) ∧
    (∀ account filler,
      (parts account filler).map List.length = [32, 32, 8, 4 + 32, 1, 4 + 8, 8, 4 + 32]) ∧
    (∀ account filler rest, unpack ((parts account filler).flatten ++ rest) = .ok account) ∧
    (∀ bytes account, unpack bytes = .ok account →
      ∃ filler rest, bytes = (parts account filler).flatten ++ rest) ∧
    (∀ bytes, (∃ fields, Fields.read? bytes = some fields) ↔ 165 ≤ bytes.length) ∧
    (∀ front rest : Bytes, front.length = 165 → unpack (front ++ rest) = unpack front) ∧
    (∀ bytes, bytes.length < 165 → unpack bytes = .error (.invalidFormat 165 bytes.length)) := by
  refine ⟨fun _ => exists_unpack_iff, map_length_parts, ?_, ?_, fun _ => exists_read?_iff,
    fun _ rest whole => unpack_append whole rest, fun _ => unpack_of_short⟩
  · intro account filler rest
    rw [← pack_eq_flatten]
    exact unpack_eq_ok_iff.mpr ⟨filler, rest, rfl⟩
  · intro bytes account unpacked
    obtain ⟨filler, rest, same⟩ := unpack_eq_ok_iff.mp unpacked
    exact ⟨filler, rest, same.trans (congrArg (· ++ rest) (pack_eq_flatten account filler))⟩

end TokenAccount
end BridgeClient
