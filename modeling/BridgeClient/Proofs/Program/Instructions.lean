import BridgeClient.Program.Gravity
import BridgeClient.Program.Nebula
import BridgeClient.Program.Port
import BridgeClient.Proofs.Ledger.Key
import BridgeClient.Proofs.Program.Reading
import Mathlib.Tactic.SplitIfs

set_option autoImplicit false

/-!
The instructions of the three programs as payloads: each set is written and read strictly, as long
as four bytes count its byte strings, and a list of keys that was packed into an instruction is found
again by cutting the field that was read into blocks of 32 bytes.
-/
namespace BridgeClient

open Borsh Borsh.Reader

namespace Borsh

/-- A byte string gives back itself and what is behind it, if the length behind it is known. -/
theorem writeByteString_append_inj {value other behind otherBehind : Bytes}
    (same : writeByteString value ++ behind = writeByteString other ++ otherBehind)
    (long : behind.length = otherBehind.length) : value = other ∧ behind = otherBehind := by
  rw [writeByteString, writeByteString, List.append_assoc, List.append_assoc] at same
  obtain ⟨-, rest⟩ := List.append_inj same (by simp)
  exact List.append_inj' rest long

theorem writeByteString_injective : Function.Injective writeByteString := by
  intro value other same
  have alike : writeByteString value ++ [] = writeByteString other ++ [] :=
    congrArg (· ++ []) same
  exact (writeByteString_append_inj alike rfl).1

end Borsh

namespace Borsh

variable {α : Type}

/-- The keys that an instruction is made from are found in the packed field of what is read back, and
instructions made from different keys are not written alike. -/
structure KeysRecovered (Packs : α → List Key → Prop) (packed? : α → Option Bytes)
    (Countable : α → Prop) (encode : α → Bytes) (decode : Bytes → Except Fault α) : Prop where
  recovered : ∀ value keys, Packs value keys → Countable value →
    ∃ found packed, decode (encode value) = .ok found ∧ packed? found = some packed ∧
      Key.blocks packed = keys.map fun key => key.bytes.toList
  apart : ∀ value other keys others, Packs value keys → Packs other others →
    encode value = encode other → keys = others

theorem keysRecovered_of_strict {Packs : α → List Key → Prop} {packed? : α → Option Bytes}
    {Countable : α → Prop} {encode : α → Bytes} {decode : Bytes → Except Fault α}
    (strict : Strict Countable encode decode)
    (packed : ∀ {value keys}, Packs value keys → packed? value = some (Key.pack keys))
    (apart : ∀ {value other keys others}, Packs value keys → Packs other others →
      encode value = encode other → Key.pack keys = Key.pack others) :
    KeysRecovered Packs packed? Countable encode decode where
  recovered value keys packs countable :=
    ⟨value, Key.pack keys, strict.roundTrip value countable, packed packs, Key.blocks_pack keys⟩
  apart _ _ _ _ packs also same := Key.pack_injective (apart packs also same)

end Borsh

namespace GravityInstruction

/-- Four bytes count the byte string of the instruction. -/
def Countable : GravityInstruction → Prop
  | init _ _ consuls => consuls.length < 2 ^ 32
  | updateConsuls _ _ consuls => consuls.length < 2 ^ 32

theorem read_eq_ok_iff {bytes rest : Bytes} {instruction : GravityInstruction} :
    read bytes = .ok (instruction, rest) ↔
      instruction.Countable ∧ bytes = instruction.encode ++ rest := by
  constructor
  · intro whole
    obtain ⟨tag, behind, front, found⟩ := bind_eq_ok_iff.mp whole
    obtain rfl := byte_eq_ok_iff.mp front
    split_ifs at found with isInit isUpdate <;>
      simp only [bind_eq_ok_iff, byte_eq_ok_iff, word64_eq_ok_iff, byteString_eq_ok_iff,
        pure_apply, fail_apply, Except.ok.injEq, Prod.mk.injEq, reduceCtorEq] at found
    · obtain ⟨bft, _, rfl, round, _, rfl, consuls, _, ⟨small, rfl⟩, rfl, rfl⟩ := found
      exact ⟨small, by simp [isInit, encode]⟩
    · obtain ⟨bft, _, rfl, round, _, rfl, consuls, _, ⟨small, rfl⟩, rfl, rfl⟩ := found
      exact ⟨small, by simp [isUpdate, encode]⟩
  · rintro ⟨countable, rfl⟩
    cases instruction <;> simp [read, encode, bind_apply, byteString_append countable]

theorem sequential_read : Sequential read :=
  sequential_byte.bind fun _ =>
    .ite
      (sequential_byte.bind fun _ => sequential_word64.bind fun _ =>
        sequential_byteString.bind fun _ => .pure _)
      (.ite
        (sequential_byte.bind fun _ => sequential_word64.bind fun _ =>
          sequential_byteString.bind fun _ => .pure _)
        (.fail _))

theorem strict : Strict Countable encode decode := strict_of_read read_eq_ok_iff sequential_read

/-- The packed keys of the instruction. -/
def packed? : GravityInstruction → Option Bytes
  | init _ _ consuls => some consuls
  | updateConsuls _ _ consuls => some consuls

/-- The instructions that are made from a list of keys. -/
inductive Packs : GravityInstruction → List Key → Prop
  | init (bft : UInt8) (initRound : UInt64) (consuls : List Key) :
      Packs (initKeys bft initRound consuls) consuls
  | updateConsuls (bft : UInt8) (lastRound : UInt64) (consuls : List Key) :
      Packs (updateConsulKeys bft lastRound consuls) consuls

theorem packed?_of_packs {instruction : GravityInstruction} {keys : List Key}
    (packs : Packs instruction keys) : instruction.packed? = some (Key.pack keys) := by
  cases packs <;> rfl

theorem Packs.eq_of_encode_eq {instruction other : GravityInstruction} {keys others : List Key}
    (packs : Packs instruction keys) (also : Packs other others)
    (same : instruction.encode = other.encode) : Key.pack keys = Key.pack others := by
  cases packs <;> cases also
  case init.init =>
    obtain ⟨-, behind⟩ := List.append_inj (List.cons.inj (List.cons.inj same).2).2 (by simp)
    exact writeByteString_injective behind
  case updateConsuls.updateConsuls =>
    obtain ⟨-, behind⟩ := List.append_inj (List.cons.inj (List.cons.inj same).2).2 (by simp)
    exact writeByteString_injective behind
  all_goals exact absurd (List.cons.inj same).1 (by decide)

end GravityInstruction

theorem NebulaDataType.read_eq_ok_iff {bytes rest : Bytes} {dataType : NebulaDataType} :
    read bytes = .ok (dataType, rest) ↔ bytes = dataType.tag :: rest := by
  constructor
  · intro whole
    obtain ⟨tag, behind, front, found⟩ := bind_eq_ok_iff.mp whole
    obtain rfl := byte_eq_ok_iff.mp front
    split_ifs at found with isInt64 isString isBytes
    · cases found
      rw [isInt64, NebulaDataType.tag]
    · cases found
      rw [isString, NebulaDataType.tag]
    · cases found
      rw [isBytes, NebulaDataType.tag]
    · cases found
  · rintro rfl
    cases dataType <;> rfl

@[simp] theorem NebulaDataType.read_tag (dataType : NebulaDataType) (rest : Bytes) :
    read (dataType.tag :: rest) = .ok (dataType, rest) := read_eq_ok_iff.mpr rfl

theorem NebulaDataType.sequential_read : Sequential read :=
  sequential_byte.bind fun _ => .ite (.pure _) (.ite (.pure _) (.ite (.pure _) (.fail _)))

namespace NebulaInstruction

/-- Four bytes count the byte string of the instruction, if it has one. -/
def Countable : NebulaInstruction → Prop
  | init _ _ _ oracles => oracles.length < 2 ^ 32
  | updateOracles _ oracles _ => oracles.length < 2 ^ 32
  | _ => True

theorem read_eq_ok_iff {bytes rest : Bytes} {instruction : NebulaInstruction} :
    read bytes = .ok (instruction, rest) ↔
      instruction.Countable ∧ bytes = instruction.encode ++ rest := by
  constructor
  · intro whole
    obtain ⟨tag, behind, front, found⟩ := bind_eq_ok_iff.mp whole
    obtain rfl := byte_eq_ok_iff.mp front
    split_ifs at found with isInit isUpdate isHash isValue isSubscribe <;>
      simp only [bind_eq_ok_iff, byte_eq_ok_iff, fixed_eq_ok_iff, key_eq_ok_iff, word64_eq_ok_iff,
        byteString_eq_ok_iff, NebulaDataType.read_eq_ok_iff, pure_apply, fail_apply,
        Except.ok.injEq, Prod.mk.injEq, reduceCtorEq] at found
    · obtain ⟨bft, _, rfl, dataType, _, rfl, program, _, rfl, oracles, _, ⟨small, rfl⟩, rfl, rfl⟩ :=
        found
      exact ⟨small, by simp [isInit, encode]⟩
    · obtain ⟨bft, _, rfl, oracles, _, ⟨small, rfl⟩, round, _, rfl, rfl, rfl⟩ := found
      exact ⟨small, by simp [isUpdate, encode]⟩
    · obtain ⟨hash, _, rfl, rfl, rfl⟩ := found
      exact ⟨trivial, by simp [isHash, encode]⟩
    · obtain ⟨value, _, rfl, dataType, _, rfl, pulse, _, rfl, subscription, _, rfl, rfl, rfl⟩ := found
      exact ⟨trivial, by simp [isValue, encode]⟩
    · obtain ⟨subscriber, _, rfl, confirmations, _, rfl, reward, _, rfl, subscription, _, rfl, rfl,
        rfl⟩ := found
      exact ⟨trivial, by simp [isSubscribe, encode]⟩
  · rintro ⟨countable, rfl⟩
    cases instruction with
    | init | updateOracles => simp [read, encode, bind_apply, byteString_append countable]
    | sendHashValue | sendValueToSubs | subscribe => simp [read, encode, bind_apply]

theorem sequential_read : Sequential read :=
  sequential_byte.bind fun _ =>
    .ite
      (sequential_byte.bind fun _ => NebulaDataType.sequential_read.bind fun _ =>
        sequential_key.bind fun _ => sequential_byteString.bind fun _ => .pure _)
    <| .ite
      (sequential_byte.bind fun _ => sequential_byteString.bind fun _ =>
        sequential_word64.bind fun _ => .pure _)
    <| .ite ((sequential_fixed 64).bind fun _ => .pure _)
    <| .ite
      ((sequential_fixed 64).bind fun _ => NebulaDataType.sequential_read.bind fun _ =>
        sequential_word64.bind fun _ => (sequential_fixed 16).bind fun _ => .pure _)
    <| .ite
      (sequential_key.bind fun _ => sequential_byte.bind fun _ =>
        sequential_word64.bind fun _ => (sequential_fixed 16).bind fun _ => .pure _)
      (.fail _)

theorem strict : Strict Countable encode decode := strict_of_read read_eq_ok_iff sequential_read

/-- The packed keys of the instruction, if it has any. -/
def packed? : NebulaInstruction → Option Bytes
  | init _ _ _ oracles => some oracles
  | updateOracles _ oracles _ => some oracles
  | _ => none

/-- The instructions that are made from a list of keys. -/
inductive Packs : NebulaInstruction → List Key → Prop
  | init (bft : UInt8) (dataType : NebulaDataType) (gravityProgram : Key) (oracles : List Key) :
      Packs (initKeys bft dataType gravityProgram oracles) oracles
  | updateOracles (bft : UInt8) (oracles : List Key) (newRound : UInt64) :
      Packs (updateOracleKeys bft oracles newRound) oracles

theorem packed?_of_packs {instruction : NebulaInstruction} {keys : List Key}
    (packs : Packs instruction keys) : instruction.packed? = some (Key.pack keys) := by
  cases packs <;> rfl

theorem Packs.eq_of_encode_eq {instruction other : NebulaInstruction} {keys others : List Key}
    (packs : Packs instruction keys) (also : Packs other others)
    (same : instruction.encode = other.encode) : Key.pack keys = Key.pack others := by
  cases packs <;> cases also
  case init.init =>
    obtain ⟨-, -, -, behind⟩ : _ ∧ _ ∧ _ ∧ _ := by
      simpa only [initKeys, encode, List.cons.injEq] using same
    exact writeByteString_injective (List.append_inj behind (by simp [writeKey])).2
  case updateOracles.updateOracles =>
    obtain ⟨-, -, behind⟩ : _ ∧ _ ∧ _ := by
      simpa only [updateOracleKeys, encode, List.cons.injEq] using same
    exact (writeByteString_append_inj behind (by simp)).1
  all_goals exact absurd (List.cons.inj same).1 (by decide)

end NebulaInstruction

namespace PortInstruction

/-- Four bytes count the byte string of the instruction, if it has one. -/
def Countable : PortInstruction → Prop
  | initWithOracles _ _ _ _ oracles => oracles.length < 2 ^ 32
  | createTransferRequest tokenAmount _ _ => tokenAmount.length < 2 ^ 32
  | attachValue byteVector => byteVector.length < 2 ^ 32
  | confirmProcessedRequest requestId => requestId.length < 2 ^ 32
  | transferTokenOwnership _ _ => True

theorem read_eq_ok_iff {bytes rest : Bytes} {instruction : PortInstruction} :
    read bytes = .ok (instruction, rest) ↔
      instruction.Countable ∧ bytes = instruction.encode ++ rest := by
  constructor
  · intro whole
    obtain ⟨tag, behind, front, found⟩ := bind_eq_ok_iff.mp whole
    obtain rfl := byte_eq_ok_iff.mp front
    split_ifs at found with isInit isRequest isAttach isConfirm isTransfer <;>
      simp only [bind_eq_ok_iff, byte_eq_ok_iff, fixed_eq_ok_iff, key_eq_ok_iff,
        byteString_eq_ok_iff, pure_apply, fail_apply, Except.ok.injEq, Prod.mk.injEq,
        reduceCtorEq] at found
    · obtain ⟨nebulaData, _, rfl, tokenData, _, rfl, mint, _, rfl, bft, _, rfl, oracles, _,
        ⟨small, rfl⟩, rfl, rfl⟩ := found
      exact ⟨small, by simp [isInit, encode]⟩
    · obtain ⟨amount, _, ⟨small, rfl⟩, receiver, _, rfl, id, _, rfl, rfl, rfl⟩ := found
      exact ⟨small, by simp [isRequest, encode]⟩
    · obtain ⟨value, _, ⟨small, rfl⟩, rfl, rfl⟩ := found
      exact ⟨small, by simp [isAttach, encode]⟩
    · obtain ⟨id, _, ⟨small, rfl⟩, rfl, rfl⟩ := found
      exact ⟨small, by simp [isConfirm, encode]⟩
    · obtain ⟨authority, _, rfl, token, _, rfl, rfl, rfl⟩ := found
      exact ⟨trivial, by simp [isTransfer, encode]⟩
  · rintro ⟨countable, rfl⟩
    cases instruction with
    | transferTokenOwnership => simp [read, encode, bind_apply]
    | _ => simp [read, encode, bind_apply, byteString_append countable]

theorem sequential_read : Sequential read :=
  sequential_byte.bind fun _ =>
    .ite
      (sequential_key.bind fun _ => sequential_key.bind fun _ => sequential_key.bind fun _ =>
        sequential_byte.bind fun _ => sequential_byteString.bind fun _ => .pure _)
    <| .ite
      (sequential_byteString.bind fun _ => (sequential_fixed 32).bind fun _ =>
        (sequential_fixed 16).bind fun _ => .pure _)
    <| .ite (sequential_byteString.bind fun _ => .pure _)
    <| .ite (sequential_byteString.bind fun _ => .pure _)
    <| .ite (sequential_key.bind fun _ => sequential_key.bind fun _ => .pure _) (.fail _)

theorem strict : Strict Countable encode decode := strict_of_read read_eq_ok_iff sequential_read

/-- The packed keys of the instruction, if it has any. -/
def packed? : PortInstruction → Option Bytes
  | initWithOracles _ _ _ _ oracles => some oracles
  | _ => none

/-- The instructions that are made from a list of keys. -/
inductive Packs : PortInstruction → List Key → Prop
  | initWithOracles (nebulaDataAccount tokenDataAccount tokenMint : Key) (bft : UInt8)
      (oracles : List Key) :
      Packs (initWithOracleKeys nebulaDataAccount tokenDataAccount tokenMint bft oracles) oracles

theorem packed?_of_packs {instruction : PortInstruction} {keys : List Key}
    (packs : Packs instruction keys) : instruction.packed? = some (Key.pack keys) := by
  cases packs
  rfl

theorem Packs.eq_of_encode_eq {instruction other : PortInstruction} {keys others : List Key}
    (packs : Packs instruction keys) (also : Packs other others)
    (same : instruction.encode = other.encode) : Key.pack keys = Key.pack others := by
  cases packs
  cases also
  simp only [initWithOracleKeys, encode, writeKey, List.cons.injEq,
    FixedBytes.append_eq_append_iff, true_and] at same
  exact writeByteString_injective same.2.2.2.2

end PortInstruction

/-- The instructions of each program are read back from what they are written as, as long as four
bytes count their byte strings; nothing else is read; missing bytes and bytes left over are refused
as such; and packed keys are found in the field that was read, block by block. -/
theorem instructions_read_strictly :
    (Strict GravityInstruction.Countable GravityInstruction.encode GravityInstruction.decode ∧
      KeysRecovered GravityInstruction.Packs GravityInstruction.packed?
        GravityInstruction.Countable GravityInstruction.encode GravityInstruction.decode) ∧
      (Strict NebulaInstruction.Countable NebulaInstruction.encode NebulaInstruction.decode ∧
        KeysRecovered NebulaInstruction.Packs NebulaInstruction.packed?
          NebulaInstruction.Countable NebulaInstruction.encode NebulaInstruction.decode) ∧
      Strict PortInstruction.Countable PortInstruction.encode PortInstruction.decode ∧
        KeysRecovered PortInstruction.Packs PortInstruction.packed?
          PortInstruction.Countable PortInstruction.encode PortInstruction.decode := by
  refine ⟨⟨GravityInstruction.strict, ?_⟩, ⟨NebulaInstruction.strict, ?_⟩,
    PortInstruction.strict, ?_⟩
  · exact keysRecovered_of_strict GravityInstruction.strict GravityInstruction.packed?_of_packs
      GravityInstruction.Packs.eq_of_encode_eq
  · exact keysRecovered_of_strict NebulaInstruction.strict NebulaInstruction.packed?_of_packs
      NebulaInstruction.Packs.eq_of_encode_eq
  · exact keysRecovered_of_strict PortInstruction.strict PortInstruction.packed?_of_packs
      PortInstruction.Packs.eq_of_encode_eq

/-- A new set of two oracles: read back whole, refused without its last byte or with one more, and
its field is cut into the two keys. -/
theorem instructions_read_strictly_two_oracles :
    let instruction := NebulaInstruction.updateOracleKeys 3 [Key.fill 1, Key.fill 2] 7
    let bytes := instruction.encode
    NebulaInstruction.decode bytes = .ok instruction ∧
      (NebulaInstruction.decode (bytes.take 77)).mapError Fault.message =
        .error "Unexpected length of input" ∧
      (NebulaInstruction.decode (bytes ++ [0])).mapError Fault.message =
        .error "Not all bytes read" ∧
      ∃ found packed, NebulaInstruction.decode bytes = .ok found ∧ found.packed? = some packed ∧
        Key.blocks packed = [List.replicate 32 1, List.replicate 32 2] := by
  intro instruction bytes
  obtain ⟨-, ⟨strict, keys⟩, -⟩ := instructions_read_strictly
  have countable : instruction.Countable := by
    change (Key.pack [Key.fill 1, Key.fill 2]).length < 2 ^ 32
    decide
  have split : bytes = bytes.take 77 ++ bytes.drop 77 := (List.take_append_drop 77 bytes).symm
  exact ⟨strict.roundTrip instruction countable,
    strict.cut instruction countable _ _ split (by decide),
    strict.extended instruction countable [0] (by decide),
    keys.recovered instruction _ (.updateOracles 3 [Key.fill 1, Key.fill 2] 7) countable⟩

end BridgeClient
