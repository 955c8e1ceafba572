import BridgeClient.Proofs.Wire.Layout
import Mathlib.Data.Nat.Digits.Lemmas

set_option autoImplicit false

/-!
When two swap operations are written alike. The amount of an EVM-bound operation has no length in
front of it, but it is the only part whose length varies and it begins with no zero, so the whole
length gives it back. The two layouts have one length in common, at which an EVM-bound operation with
an amount of four bytes is also some ledger-bound one.
-/
namespace BridgeClient

theorem Radix.digits_eq {base : Nat} (wide : 2 ≤ base) (n : Nat) :
    digits base n = Nat.digits base n := by
  induction n using Nat.strongRecOn with
  | _ n ih =>
      rcases Nat.eq_zero_or_pos n with rfl | positive
      · rw [digits_zero, Nat.digits_zero]
      · rw [digits_of_pos wide positive, Nat.digits_of_two_le_of_pos wide positive,
          ih _ (Nat.div_lt_self positive wide)]

namespace SwapOperation

theorem ofBigEndian_minimalBigEndian (n : Nat) : Bytes.ofBigEndian (minimalBigEndian n) = n := by
  rw [minimalBigEndian, Bytes.ofBigEndian, List.reverse_reverse,
    Bytes.ofLittleEndian_eq_ofDigits,
    Bytes.map_toNat_map_ofNat (Radix.digits_lt (by decide) n)]
  exact Radix.ofDigits_digits (by decide) n

theorem minimalBigEndian_injective : Function.Injective minimalBigEndian :=
  Function.LeftInverse.injective ofBigEndian_minimalBigEndian

theorem length_minimalBigEndian_le_iff (n width : Nat) :
    (minimalBigEndian n).length ≤ width ↔ n < 256 ^ width := by
  rw [minimalBigEndian, List.length_reverse, List.length_map, Radix.digits_eq (by decide)]
  exact Nat.digits_length_le_iff (by decide) n

theorem length_minimalBigEndian_eq_four_iff {n : Nat} :
    (minimalBigEndian n).length = 4 ↔ 2 ^ 24 ≤ n ∧ n < 2 ^ 32 := by
  have four := length_minimalBigEndian_le_iff n 4
  have three := length_minimalBigEndian_le_iff n 3
  norm_num at four three ⊢
  omega

theorem length_encode_evm (action : Action) (id : FixedBytes 32) (amount : Nat)
    (receiver : FixedBytes 20) :
    (evm action id amount receiver).encode.length = 53 + (minimalBigEndian amount).length := by
  simp only [encode, List.length_cons, List.length_append, FixedBytes.length_toList]
  omega

theorem length_encode_eq_ledgerLength_iff {operation : SwapOperation} {amount : Nat}
    (evmAmount : operation.amount = .evm amount) :
    operation.encode.length = ledgerLength ↔ (minimalBigEndian amount).length = 4 := by
  cases operation with
  | ledger => cases evmAmount
  | evm action id amount receiver =>
      cases evmAmount
      rw [length_encode_evm, ledgerLength]
      omega

/-- Only fields of one chain are joined, and they are kept as they are. -/
theorem ofParts_eq_ok_iff {action : Action} {id : SwapId} {amount : SwapAmount}
    {receiver : Receiver} {operation : SwapOperation} :
    ofParts action id amount receiver = .ok operation ↔
      operation.action = action ∧ operation.swapId = id ∧ operation.amount = amount ∧
        operation.receiver = receiver := by
  constructor
  · intro joined
    cases id <;> cases amount <;> cases receiver <;> cases joined <;> exact ⟨rfl, rfl, rfl, rfl⟩
  · rintro ⟨rfl, rfl, rfl, rfl⟩
    cases operation <;> rfl

theorem target_fields (operation : SwapOperation) :
    operation.swapId.target = operation.target ∧ operation.amount.target = operation.target ∧
      operation.receiver.target = operation.target := by
  cases operation <;> exact ⟨rfl, rfl, rfl⟩

/-- The same fields on the same chain, whatever is asked for. -/
structure SameFields (first second : SwapOperation) : Prop where
  swapId : first.swapId = second.swapId
  amount : first.amount = second.amount
  receiver : first.receiver = second.receiver

/-- The EVM-bound `operation` has an amount of four bytes, and `other` has the fields that are found
in its bytes when they are read as an operation bound for the ledger. -/
structure PassesFor (operation other : SwapOperation) : Prop where
  amount : ∃ amount, operation.amount = .evm amount ∧ 2 ^ 24 ≤ amount ∧ amount < 2 ^ 32
  found : ∃ found, decode operation.encode = .ok found ∧ found.SameFields other

theorem tag_eq_of_encode_eq {first second : SwapOperation} (same : first.encode = second.encode) :
    first.action.tag = second.action.tag := by
  cases first <;> cases second <;> exact (List.cons.inj same).1

theorem encode_eq_of_sameFields {first second : SwapOperation}
    (tags : first.action.tag = second.action.tag) (fields : first.SameFields second) :
    first.encode = second.encode := by
  obtain ⟨ids, amounts, receivers⟩ := fields
  cases first <;> cases second <;> cases ids <;> cases amounts <;> cases receivers <;>
    exact congrArg (· :: _) tags

theorem sameFields_of_encode_eq {first second : SwapOperation}
    (target : first.target = second.target) (same : first.encode = second.encode) :
    first.SameFields second := by
  cases first with
  | ledger action id amount receiver =>
      cases second with
      | evm => cases target
      | ledger other otherId otherAmount otherReceiver =>
          obtain ⟨-, behind⟩ := List.cons.inj same
          obtain ⟨rfl, behindId⟩ := FixedBytes.append_eq_append_iff.mp behind
          obtain ⟨bits, receivers⟩ := FixedBytes.append_eq_append_iff.mp behindId
          obtain rfl := FixedBytes.ext_toList receivers
          have amounts : amount = otherAmount := by
            rw [← Binary64.ofBytes_toBytes amount, bits, Binary64.ofBytes_toBytes]
          exact ⟨rfl, congrArg SwapAmount.ledger amounts, rfl⟩
  | evm action id amount receiver =>
      cases second with
      | ledger => cases target
      | evm other otherId otherAmount otherReceiver =>
          obtain ⟨-, behind⟩ := List.cons.inj same
          obtain ⟨rfl, behindId⟩ := FixedBytes.append_eq_append_iff.mp behind
          -- Both end in twenty bytes, so what is left in front is as long in one as in the other.
          obtain ⟨amounts, receivers⟩ := List.append_inj' behindId (by simp)
          obtain rfl := FixedBytes.ext_toList receivers
          exact ⟨rfl, congrArg SwapAmount.evm (minimalBigEndian_injective amounts), rfl⟩

theorem passesFor_of_encode_eq {operation other : SwapOperation} (evmBound : operation.target = .evm)
    (ledgerBound : other.target = .ledger) (same : operation.encode = other.encode) :
    operation.PassesFor other := by
  cases other with
  | evm => cases ledgerBound
  | ledger otherAction otherId otherAmount otherReceiver =>
      cases operation with
      | ledger => cases evmBound
      | evm action id amount receiver =>
          have long := length_encode_ledger otherAction otherId otherAmount otherReceiver
          rw [← same, length_encode_eq_ledgerLength_iff rfl,
            length_minimalBigEndian_eq_four_iff] at long
          have found := decode_encode_append otherAction otherId otherAmount otherReceiver []
          rw [List.append_nil, ← same] at found
          exact ⟨⟨amount, rfl, long⟩, _, found, rfl, rfl, rfl⟩

theorem encode_eq_of_passesFor {operation other : SwapOperation}
    (tags : operation.action.tag = other.action.tag) (passes : operation.PassesFor other) :
    operation.encode = other.encode := by
  obtain ⟨⟨amount, evmAmount, bounds⟩, found, read, fields⟩ := passes
  obtain ⟨-, again⟩ := encode_of_decode read
  have long := (length_encode_eq_ledgerLength_iff evmAmount).mpr
    (length_minimalBigEndian_eq_four_iff.mpr bounds)
  rw [← long, List.take_length] at again
  rw [← again]
  exact encode_eq_of_sameFields ((tag_eq_of_encode_eq again).trans tags) fields

theorem encode_eq_iff {first second : SwapOperation} :
    first.encode = second.encode ↔ first.action.tag = second.action.tag ∧
      (first.SameFields second ∨ first.PassesFor second ∨ second.PassesFor first) := by
  constructor
  · intro same
    refine ⟨tag_eq_of_encode_eq same, ?_⟩
    cases left : first.target <;> cases right : second.target
    · exact Or.inl (sameFields_of_encode_eq (left.trans right.symm) same)
    · exact Or.inr (Or.inr (passesFor_of_encode_eq right left same.symm))
    · exact Or.inr (Or.inl (passesFor_of_encode_eq left right same))
    · exact Or.inl (sameFields_of_encode_eq (left.trans right.symm) same)
  · rintro ⟨tags, fields | passes | passes⟩
    · exact encode_eq_of_sameFields tags fields
    · exact encode_eq_of_passesFor tags passes
    · exact (encode_eq_of_passesFor tags.symm passes).symm

/-- The fields of an operation belong to one chain, and two operations are written alike when they
have one tag and the same fields, or when one of them is EVM-bound with an amount of four bytes and
the other is found in its bytes; so no two EVM-bound operations are, and no others reach the length of
a ledger-bound one. -/
theorem written_alike_iff :
    (∀ (action : Action) (id : SwapId) (amount : SwapAmount) (receiver : Receiver)
        (operation : SwapOperation), ofParts action id amount receiver = .ok operation ↔
          operation.action = action ∧ operation.swapId = id ∧ operation.amount = amount ∧
            operation.receiver = receiver) ∧
      (∀ operation : SwapOperation, operation.swapId.target = operation.target ∧
        operation.amount.target = operation.target ∧
          operation.receiver.target = operation.target) ∧
      (∀ first second : SwapOperation, first.encode = second.encode ↔
        first.action.tag = second.action.tag ∧
          (first.SameFields second ∨ first.PassesFor second ∨ second.PassesFor first)) ∧
      (∀ first second : SwapOperation, first.target = .evm → second.target = .evm →
        first.encode = second.encode →
          first.action.tag = second.action.tag ∧ first.SameFields second) ∧
      ∀ (operation : SwapOperation) (amount : Nat), operation.amount = .evm amount →
        (operation.encode.length = ledgerLength ↔ (minimalBigEndian amount).length = 4) := by
  refine ⟨fun _ _ _ _ _ => ofParts_eq_ok_iff, target_fields, fun _ _ => encode_eq_iff, ?_,
    fun _ _ => length_encode_eq_ledgerLength_iff⟩
  intro first second left right same
  exact ⟨tag_eq_of_encode_eq same, sameFields_of_encode_eq (left.trans right.symm) same⟩

/-- An unlock of 0x01020304 units for an EVM account has the bytes of an operation bound for the
ledger, and those of the EVM-bound one that keeps the tag of an unlock as a byte. -/
theorem written_alike_iff_four_bytes :
    let operation := evm .unlock (FixedBytes.fill 32 7) 0x01020304 (FixedBytes.fill 20 9)
    let other := ledger .unlock (FixedBytes.fill 16 7) ⟨0x0707070707070707⟩
      ⟨List.replicate 8 7 ++ ([1, 2, 3, 4] ++ List.replicate 20 9), by decide⟩
    let renamed := operation.withAction (.other 117)
    operation.encode = other.encode ∧ operation.PassesFor other ∧ operation.encode.length = 57 ∧
      renamed.encode = operation.encode ∧ renamed.SameFields operation := by
  intro operation other renamed
  obtain ⟨_, _, alike, apart, long⟩ := written_alike_iff
  have digits : Nat.digits 256 0x01020304 = [4, 3, 2, 1] := by norm_num
  have bytes : minimalBigEndian 0x01020304 = [1, 2, 3, 4] := by
    rw [minimalBigEndian, Radix.digits_eq (by decide), digits]
    rfl
  have same : operation.encode = other.encode := by
    simp only [operation, other, encode, bytes]
    decide
  have passes : operation.PassesFor other := by
    rcases ((alike operation other).mp same).2 with fields | passes | passes
    · cases fields.swapId
    · exact passes
    · obtain ⟨_, absent, _⟩ := passes.amount
      cases absent
  have sameAgain : renamed.encode = operation.encode := rfl
  exact ⟨same, passes, (long operation 0x01020304 rfl).mpr (by rw [bytes]; rfl), sameAgain,
    (apart renamed operation rfl rfl sameAgain).2⟩

end SwapOperation
end BridgeClient
