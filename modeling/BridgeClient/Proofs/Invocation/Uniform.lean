import BridgeClient.Invocation.Packing
import BridgeClient.Proofs.Ledger.Size

set_option autoImplicit false

/-!
Instructions of one program on one account list. However many there are, they have the same roster,
so the size of their transaction is a constant, the compact length of their number and what each of
them takes. Hence every consecutive part of a group that fits does fit, and a group is refused for
its last instruction only when that is refused alone.
-/
namespace BridgeClient.Packing

open Sequencing

/-- One program and one account list. -/
def Uniform (program : Key) (accounts : List AccountMeta) (instructions : List Instruction) :
    Prop :=
  ∀ instruction ∈ instructions, instruction.program = program ∧ instruction.accounts = accounts

theorem Uniform.of_subset {program : Key} {accounts : List AccountMeta}
    {some all : List Instruction} (uniform : Uniform program accounts all)
    (subset : ∀ instruction ∈ some, instruction ∈ all) : Uniform program accounts some :=
  fun instruction inside => uniform instruction (subset instruction inside)

theorem uniform_append {program : Key} {accounts : List AccountMeta}
    {front back : List Instruction} :
    Uniform program accounts (front ++ back) ↔
      Uniform program accounts front ∧ Uniform program accounts back :=
  List.forall_mem_append

theorem uniform_map (program : Key) (accounts : List AccountMeta) (payloads : List Bytes) :
    Uniform program accounts (payloads.map (Instruction.mk program accounts)) := by
  intro instruction inside
  obtain ⟨data, _, rfl⟩ := List.mem_map.mp inside
  exact ⟨rfl, rfl⟩

/-- The roster of any such group. -/
def sharedRoster (program : Key) (accounts : List AccountMeta) (feePayer : Key) :
    List AccountMeta :=
  Message.roster [⟨program, accounts, []⟩] feePayer

theorem roster_of_uniform {program : Key} {accounts : List AccountMeta} {feePayer : Key}
    {group : List Instruction} (uniform : Uniform program accounts group) (nonempty : group ≠ []) :
    Message.roster group feePayer = sharedRoster program accounts feePayer := by
  cases group with
  | nil => exact absurd rfl nonempty
  | cons first rest =>
      have split : Roster.mentions (first :: rest) feePayer =
          Roster.mentions [⟨program, accounts, []⟩] feePayer ++
            rest.flatMap fun instruction =>
              instruction.accounts ++ [⟨instruction.program, false, false⟩] := by
        obtain ⟨sameProgram, sameAccounts⟩ := uniform first (List.mem_cons_self ..)
        simp [Roster.mentions, sameProgram, sameAccounts]
      unfold sharedRoster Message.roster
      rw [split, Roster.entries_append_of_subset]
      intro mention inside
      obtain ⟨instruction, among, asks⟩ := List.mem_flatMap.mp inside
      obtain ⟨sameProgram, sameAccounts⟩ := uniform instruction (List.mem_cons_of_mem _ among)
      rw [sameProgram, sameAccounts] at asks
      refine Message.mem_mentions.mpr (Or.inr ⟨_, List.mem_singleton_self _, ?_⟩)
      simpa using asks

/-- The group is measured, and a transaction of it is not too large. -/
def Fits (measured : List Instruction → Except BridgeError Nat) (group : List Instruction) : Prop :=
  ∃ size, measured group = .ok size ∧ size ≤ Transaction.maxSize

theorem fits_iff {group : List Instruction} {feePayer : Key} {blockhash : Blockhash} :
    Fits (measure feePayer blockhash) group ↔
      ∃ message, Message.compile group feePayer blockhash = .ok message ∧ message.Countable ∧
        Transaction.signedSize message.requiredSignatures.toNat message ≤ Transaction.maxSize := by
  unfold Fits measure
  simp only [bind_eq_ok_iff, Transaction.wireSize_eq_ok_iff]
  constructor
  · intro fits
    obtain ⟨_, ⟨message, compiled, countable, rfl⟩, small⟩ := fits
    exact ⟨message, compiled, countable, small⟩
  · intro fits
    obtain ⟨message, compiled, countable, small⟩ := fits
    exact ⟨_, ⟨message, compiled, countable, rfl⟩, small⟩

section Uniform

variable {program feePayer : Key} {accounts : List AccountMeta} {blockhash : Blockhash}

/-- The size of a group in closed form. -/
theorem measure_eq_ok_iff {group : List Instruction} {size : Nat}
    (uniform : Uniform program accounts group) (nonempty : group ≠ []) :
    measure feePayer blockhash group = .ok size ↔
      (sharedRoster program accounts feePayer).length ≤ Message.maxAccounts ∧
        group.length < 65536 ∧ (∀ instruction ∈ group, Message.Measurable instruction) ∧
        size = Message.frame (sharedRoster program accounts feePayer)
            (Message.count (sharedRoster program accounts feePayer) fun a => a.isSigner).toNat +
          CompactLength.size group.length + Message.loads group := by
  simp only [measure, bind_eq_ok_iff, Message.compile_eq_ok_iff, Transaction.wireSize_eq_ok_iff,
    roster_of_uniform uniform nonempty]
  constructor
  · intro measured
    obtain ⟨message, ⟨within, rfl⟩, countable, rfl⟩ := measured
    obtain ⟨_, few, each⟩ := Message.countable_ofRoster.mp countable
    exact ⟨within, few, each, Message.signedSize_ofRoster _ countable⟩
  · intro parts
    obtain ⟨within, few, each, rfl⟩ := parts
    have keys : (sharedRoster program accounts feePayer).length < 65536 := by
      unfold Message.maxAccounts at within
      omega
    have countable : (Message.ofRoster (sharedRoster program accounts feePayer) group
        blockhash).Countable := Message.countable_ofRoster.mpr ⟨keys, few, each⟩
    exact ⟨_, ⟨within, rfl⟩, countable, (Message.signedSize_ofRoster _ countable).symm⟩

/-- If there is room for the keys and the instructions, the error of a group is that of the first
instruction with a list that cannot be counted. -/
theorem measure_eq_error_iff {group : List Instruction} {reason : BridgeError}
    (uniform : Uniform program accounts group) (nonempty : group ≠ [])
    (within : (sharedRoster program accounts feePayer).length ≤ Message.maxAccounts)
    (few : group.length < 65536) :
    measure feePayer blockhash group = .error reason ↔
      ∃ before instruction after, group = before ++ instruction :: after ∧
        (∀ other ∈ before, Message.Measurable other) ∧
        Message.serializeInstruction (Message.locate
          ((sharedRoster program accounts feePayer).map AccountMeta.key) instruction) =
            .error reason := by
  have compiled : Message.compile group feePayer blockhash =
      .ok (Message.ofRoster (sharedRoster program accounts feePayer) group blockhash) := by
    rw [Message.compile_eq_ok_iff, roster_of_uniform uniform nonempty]
    exact ⟨within, rfl⟩
  have sized : measure feePayer blockhash group = Transaction.wireSize
      (Message.ofRoster (sharedRoster program accounts feePayer) group blockhash) := by
    rw [measure, compiled]
    rfl
  have keys : (sharedRoster program accounts feePayer).length < 65536 := by
    unfold Message.maxAccounts at within
    omega
  rw [sized, Transaction.wireSize_eq_error_iff, Message.serialize_eq_error_iff
    (by simpa [Message.ofRoster] using keys) (by simpa [Message.ofRoster] using few)]
  constructor
  · intro failed
    obtain ⟨_, _, _, whole, countable, refused⟩ := failed
    obtain ⟨before, others, rfl, rfl, tail⟩ := List.map_eq_append_iff.mp whole
    obtain ⟨instruction, after, rfl, rfl, rfl⟩ := List.map_eq_cons_iff.mp tail
    refine ⟨before, instruction, after, rfl, ?_, refused⟩
    intro other inside
    exact Message.countable_locate.mp (countable _ (List.mem_map_of_mem inside))
  · intro failed
    obtain ⟨before, instruction, after, rfl, measurable, refused⟩ := failed
    refine ⟨_, _, _, List.map_append.trans (by rw [List.map_cons]), ?_, refused⟩
    intro other inside
    obtain ⟨earlier, among, rfl⟩ := List.mem_map.mp inside
    exact Message.countable_locate.mpr (measurable earlier among)

theorem fits_of_part {before middle after : List Instruction}
    (uniform : Uniform program accounts (before ++ middle ++ after)) (nonempty : middle ≠ [])
    (fits : Fits (measure feePayer blockhash) (before ++ middle ++ after)) :
    Fits (measure feePayer blockhash) middle := by
  obtain ⟨size, measured, bound⟩ := fits
  have whole : before ++ middle ++ after ≠ [] := by simp [nonempty]
  obtain ⟨within, few, each, rfl⟩ := (measure_eq_ok_iff uniform whole).mp measured
  have part := (uniform_append.mp (uniform_append.mp uniform).1).2
  simp only [List.length_append, Message.loads_append] at few bound
  refine ⟨_, (measure_eq_ok_iff part nonempty).mpr ⟨within, by omega, ?_, rfl⟩, ?_⟩
  · intro instruction inside
    exact each instruction (by simp [inside])
  · have counts : CompactLength.size middle.length ≤
        CompactLength.size (before.length + middle.length + after.length) :=
      CompactLength.size_mono (by omega)
    omega

/-- Behind a group that fits, an instruction is refused with the error it has alone. -/
theorem measure_append_error {taken : List Instruction} {next : Instruction} {reason : BridgeError}
    (uniform : Uniform program accounts (taken ++ [next])) (nonempty : taken ≠ [])
    (fits : Fits (measure feePayer blockhash) taken)
    (refused : measure feePayer blockhash (taken ++ [next]) = .error reason) :
    measure feePayer blockhash [next] = .error reason := by
  obtain ⟨front, last⟩ := uniform_append.mp uniform
  obtain ⟨size, measured, bound⟩ := fits
  obtain ⟨within, _, each, rfl⟩ := (measure_eq_ok_iff front nonempty).mp measured
  have short : taken.length ≤ Transaction.maxSize := by
    have := Message.length_le_loads taken
    omega
  have few : (taken ++ [next]).length < 65536 := by
    simp only [List.length_append, List.length_singleton]
    unfold Transaction.maxSize at short
    omega
  obtain ⟨before, instruction, after, whole, measurable, failed⟩ :=
    (measure_eq_error_iff uniform (by simp) within few).mp refused
  have found : instruction ∈ taken ++ [next] := by simp [whole]
  -- The failing instruction is not among those that were measured before.
  have found_last : instruction = next := by
    rcases List.mem_append.mp found with inside | only
    · rw [CompiledInstruction.serialize_eq_ok_iff.mpr
        ⟨Message.countable_locate.mpr (each instruction inside), rfl⟩] at failed
      cases failed
    · exact List.mem_singleton.mp only
  subst found_last
  apply (measure_eq_error_iff last (by simp) within (by simp)).mpr
  exact ⟨[], instruction, [], rfl, by simp, failed⟩

end Uniform

end BridgeClient.Packing
