import BridgeClient.Ledger.TokenAccount
import BridgeClient.Proofs.Bytes
import BridgeClient.Proofs.Sequencing

set_option autoImplicit false

/-!
The layout of a token account. What unpacking accepts is what packing writes, with any payloads
behind absent options and with anything behind the account.
-/
namespace BridgeClient

open Sequencing

theorem TokenAccountState.ofTag?_eq_some_iff {tag : UInt8} {state : TokenAccountState} :
    ofTag? tag = some state ↔ tag = state.tag := by
  constructor
  · intro found
    unfold ofTag? at found
    split at found
    · cases found
      assumption
    · split at found
      · cases found
        assumption
      · split at found
        · cases found
          assumption
        · cases found
  · rintro rfl
    cases state <;> rfl

namespace TokenAccount

variable {bytes : Bytes} {offset n : Nat}

/-- A piece is found at an offset if the string goes on with it there. -/
theorem slice?_eq_some_iff {piece : FixedBytes n} :
    slice? bytes offset n = some piece ↔
      bytes.drop offset = piece.toList ++ bytes.drop (offset + n) := by
  rw [slice?, FixedBytes.ofList?_eq_some_iff]
  constructor
  · intro same
    rw [← same, ← List.drop_drop, List.take_append_drop]
  · intro split
    rw [split]
    exact List.take_left' piece.length_toList

theorem exists_slice? (long : offset + n ≤ bytes.length) :
    ∃ piece, slice? bytes offset n = some piece := by
  have cut : ((bytes.drop offset).take n).length = n := by
    rw [List.length_take, List.length_drop]
    omega
  exact ⟨⟨_, cut⟩, FixedBytes.ofList?_eq_some_iff.mpr rfl⟩

namespace Fields

/-- The bytes of an account, field by field. -/
def toBytes (fields : Fields) : Bytes :=
  fields.mint.toList ++ (fields.owner.toList ++ (fields.amount.toList ++
    ((fields.delegateTag.toList ++ fields.delegate.toList) ++ (fields.state.toList ++
      ((fields.nativeTag.toList ++ fields.native.toList) ++ (fields.delegatedAmount.toList ++
        (fields.closeTag.toList ++ fields.closeAuthority.toList)))))))

@[simp] theorem length_toBytes (fields : Fields) : fields.toBytes.length = packedLength := by
  simp [toBytes, packedLength]

/-- Fields that were read stand at the front of the string. -/
theorem eq_append_of_read? {fields : Fields} (found : read? bytes = some fields) :
    bytes = fields.toBytes ++ bytes.drop packedLength := by
  simp only [read?, Option.bind_eq_bind, Option.bind_eq_some_iff, slice?_eq_some_iff,
    Option.pure_def, Option.some.injEq] at found
  obtain ⟨mint, atMint, owner, atOwner, amount, atAmount, delegateTag, atDelegateTag, delegate,
    atDelegate, state, atState, nativeTag, atNativeTag, native, atNative, delegated, atDelegated,
    closeTag, atCloseTag, close, atClose, rfl⟩ := found
  simp only [toBytes, packedLength, List.append_assoc]
  rw [← atClose, ← atCloseTag, ← atDelegated, ← atNative, ← atNativeTag, ← atState, ← atDelegate,
    ← atDelegateTag, ← atAmount, ← atOwner, ← atMint, List.drop_zero]

theorem exists_read? (long : packedLength ≤ bytes.length) :
    ∃ fields, read? bytes = some fields := by
  have piece : ∀ offset n, offset + n ≤ 165 → ∃ piece, slice? bytes offset n = some piece :=
    fun offset n inside => exists_slice? (Nat.le_trans inside long)
  obtain ⟨mint, atMint⟩ := piece 0 32 (by decide)
  obtain ⟨owner, atOwner⟩ := piece 32 32 (by decide)
  obtain ⟨amount, atAmount⟩ := piece 64 8 (by decide)
  obtain ⟨delegateTag, atDelegateTag⟩ := piece 72 4 (by decide)
  obtain ⟨delegate, atDelegate⟩ := piece 76 32 (by decide)
  obtain ⟨state, atState⟩ := piece 108 1 (by decide)
  obtain ⟨nativeTag, atNativeTag⟩ := piece 109 4 (by decide)
  obtain ⟨native, atNative⟩ := piece 113 8 (by decide)
  obtain ⟨delegated, atDelegated⟩ := piece 121 8 (by decide)
  obtain ⟨closeTag, atCloseTag⟩ := piece 129 4 (by decide)
  obtain ⟨close, atClose⟩ := piece 133 32 (by decide)
  simp [read?, atMint, atOwner, atAmount, atDelegateTag, atDelegate, atState, atNativeTag, atNative,
    atDelegated, atCloseTag, atClose]

end Fields

@[simp] theorem length_packOptional (value : Option (FixedBytes n)) (filler : FixedBytes n) :
    (packOptional value filler).length = 4 + n := by
  cases value <;> simp [packOptional] <;> omega

@[simp] theorem length_pack (account : TokenAccount) (filler : Filler) :
    (account.pack filler).length = packedLength := by
  simp [pack, packedLength]

theorem append_eq_packOptional_none_iff {tag : FixedBytes 4} {payload : FixedBytes n} :
    (∃ filler : FixedBytes n, tag.toList ++ payload.toList = packOptional none filler) ↔
      tag.toList = [0, 0, 0, 0] := by
  constructor
  · rintro ⟨filler, split⟩
    exact (List.append_inj split (by simp)).1
  · intro absent
    exact ⟨payload, by rw [absent, packOptional]⟩

theorem append_eq_packOptional_some_iff {tag : FixedBytes 4} {payload value : FixedBytes n} :
    (∃ filler, tag.toList ++ payload.toList = packOptional (some value) filler) ↔
      tag.toList = [1, 0, 0, 0] ∧ payload = value := by
  constructor
  · rintro ⟨filler, split⟩
    obtain ⟨present, same⟩ := List.append_inj split (by simp)
    exact ⟨present, FixedBytes.ext_toList same⟩
  · rintro ⟨present, rfl⟩
    exact ⟨payload, by rw [present, packOptional]⟩

/-- A tag and a payload stand for the optional value that is packed as these bytes. -/
theorem optional_eq_ok_iff {α : Type} {wrap : FixedBytes n → α} {unwrap : α → FixedBytes n}
    (inverse : ∀ {payload value}, wrap payload = value ↔ payload = unwrap value)
    {tag : FixedBytes 4} {payload : FixedBytes n} {value : Option α} :
    optional tag (wrap payload) = .ok value ↔
      ∃ filler, tag.toList ++ payload.toList = packOptional (value.map unwrap) filler := by
  cases value with
  | none =>
      rw [Option.map_none, append_eq_packOptional_none_iff]
      unfold optional
      split
      · simpa
      · split <;> simpa
  | some value =>
      rw [Option.map_some, append_eq_packOptional_some_iff, ← inverse]
      unfold optional
      split
      · simp [*]
      · split <;> simp [*]

theorem word_eq_iff {payload : FixedBytes 8} {value : UInt64} :
    word payload = value ↔ payload = wordBytes value := by
  rw [word, FixedBytes.ofNat_ofLittleEndian_eq_iff]
  exact ⟨fun written => FixedBytes.ext_toList written, congrArg FixedBytes.toList⟩

theorem key_eq_iff {payload : FixedBytes 32} {key : Key} :
    Key.mk payload = key ↔ payload = key.bytes := by
  cases key
  simp

theorem ofTag?_toList_eq_some_iff {piece : FixedBytes 1} {state : TokenAccountState} :
    TokenAccountState.ofTag? (UInt8.ofNat (Bytes.ofLittleEndian piece.toList)) = some state ↔
      piece.toList = [state.tag] := by
  obtain ⟨byte, single⟩ := List.length_eq_one_iff.mp piece.length_toList
  rw [single, TokenAccountState.ofTag?_eq_some_iff]
  simp [Bytes.ofLittleEndian]

/-- The fields hold an account, with some payloads behind absent options. -/
structure Fields.Hold (fields : Fields) (account : TokenAccount) (filler : Filler) : Prop where
  mint : fields.mint = account.mint.bytes
  owner : fields.owner = account.owner.bytes
  amount : fields.amount = wordBytes account.amount
  delegate : fields.delegateTag.toList ++ fields.delegate.toList =
    packOptional (account.delegate.map Key.bytes) filler.delegate
  state : fields.state.toList = [account.state.tag]
  isNative : fields.nativeTag.toList ++ fields.native.toList =
    packOptional (account.isNative.map wordBytes) filler.native
  delegatedAmount : fields.delegatedAmount = wordBytes account.delegatedAmount
  closeAuthority : fields.closeTag.toList ++ fields.closeAuthority.toList =
    packOptional (account.closeAuthority.map Key.bytes) filler.closeAuthority

theorem Fields.toBytes_eq_pack_iff {fields : Fields} {account : TokenAccount} {filler : Filler} :
    fields.toBytes = account.pack filler ↔ fields.Hold account filler := by
  rw [toBytes, pack, FixedBytes.append_eq_append_iff, FixedBytes.append_eq_append_iff,
    FixedBytes.append_eq_append_iff, List.append_eq_append_iff_of_size_eq_left (by simp),
    ← List.singleton_append, List.append_eq_append_iff_of_size_eq_left (by simp),
    List.append_eq_append_iff_of_size_eq_left (by simp), FixedBytes.append_eq_append_iff]
  constructor
  · rintro ⟨mint, owner, amount, delegate, state, isNative, delegated, close⟩
    exact ⟨mint, owner, amount, delegate, state, isNative, delegated, close⟩
  · rintro ⟨mint, owner, amount, delegate, state, isNative, delegated, close⟩
    exact ⟨mint, owner, amount, delegate, state, isNative, delegated, close⟩

/-- Unpacking reads the fields, and then the state and the options in them. -/
theorem unpack_eq_ok_iff_hold {account : TokenAccount} :
    unpack bytes = .ok account ↔
      ∃ fields, Fields.read? bytes = some fields ∧ ∃ filler, fields.Hold account filler := by
  unfold unpack
  cases found : Fields.read? bytes with
  | none => simp
  | some fields =>
      simp only [Option.some.injEq, exists_eq_left']
      cases tagged : TokenAccountState.ofTag?
          (UInt8.ofNat (Bytes.ofLittleEndian fields.state.toList)) with
      | none =>
          refine ⟨fun unpacked => ?_, fun ⟨filler, hold⟩ => ?_⟩
          · obtain ⟨state, failed, _⟩ := bind_eq_ok_iff.mp unpacked
            cases failed
          · rw [ofTag?_toList_eq_some_iff.mpr hold.state] at tagged
            cases tagged
      | some state =>
          simp only [bind_eq_ok_iff, Except.ok.injEq, exists_eq_left',
            optional_eq_ok_iff key_eq_iff, optional_eq_ok_iff word_eq_iff]
          constructor
          · rintro ⟨delegate, ⟨first, atDelegate⟩, native, ⟨second, atNative⟩, close,
              ⟨third, atClose⟩, whole⟩
            cases whole
            exact ⟨⟨first, second, third⟩, rfl, rfl, word_eq_iff.mp rfl, atDelegate,
              ofTag?_toList_eq_some_iff.mp tagged, atNative, word_eq_iff.mp rfl, atClose⟩
          · rintro ⟨filler, hold⟩
            have same : state = account.state :=
              Option.some.inj (tagged.symm.trans (ofTag?_toList_eq_some_iff.mpr hold.state))
            refine ⟨account.delegate, ⟨_, hold.delegate⟩, account.isNative, ⟨_, hold.isNative⟩,
              account.closeAuthority, ⟨_, hold.closeAuthority⟩, ?_⟩
            rw [same, hold.mint, hold.owner, word_eq_iff.mpr hold.amount,
              word_eq_iff.mpr hold.delegatedAmount]
            rfl

/-- Unpacking accepts what packing writes, whatever follows it, and nothing else. -/
theorem unpack_eq_ok_iff {account : TokenAccount} :
    unpack bytes = .ok account ↔ ∃ filler rest, bytes = account.pack filler ++ rest := by
  rw [unpack_eq_ok_iff_hold]
  constructor
  · rintro ⟨fields, found, filler, hold⟩
    refine ⟨filler, bytes.drop packedLength, ?_⟩
    rw [← Fields.toBytes_eq_pack_iff.mpr hold]
    exact Fields.eq_append_of_read? found
  · rintro ⟨filler, rest, rfl⟩
    have long : packedLength ≤ (account.pack filler ++ rest).length := by
      rw [List.length_append, length_pack]
      exact Nat.le_add_right _ _
    obtain ⟨fields, found⟩ := Fields.exists_read? long
    have same : fields.toBytes = account.pack filler :=
      ((List.append_inj (Fields.eq_append_of_read? found) (by simp)).1).symm
    exact ⟨fields, found, filler, Fields.toBytes_eq_pack_iff.mp same⟩

end TokenAccount
end BridgeClient
