import BridgeClient.Proofs.Ledger.Roster
import BridgeClient.Proofs.Sequencing

set_option autoImplicit false

/-!
Compiling in closed form: the roster of the mentions, its header counts, and every instruction with
the places of its accounts. The only error is a roster of more than 256 entries.
-/
namespace BridgeClient.Message

open Sequencing

/-- The entries of a message, in the order of its keys. -/
def roster (instructions : List Instruction) (feePayer : Key) : List AccountMeta :=
  Roster.arrange (Roster.entries (Roster.mentions instructions feePayer))

/-- An instruction with the places of its accounts among some keys. -/
def locate (keys : List Key) (instruction : Instruction) : CompiledInstruction :=
  ⟨UInt8.ofNat (keys.idxOf instruction.program),
    instruction.accounts.map fun account => UInt8.ofNat (keys.idxOf account.key),
    instruction.data⟩

/-- The message whose entries are these. -/
def ofRoster (accounts : List AccountMeta) (instructions : List Instruction)
    (blockhash : Blockhash) : Message where
  requiredSignatures := count accounts fun a => a.isSigner
  readOnlySigned := count accounts fun a => a.isSigner && !a.isWritable
  readOnlyUnsigned := count accounts fun a => !a.isSigner && !a.isWritable
  accountKeys := accounts.map AccountMeta.key
  blockhash
  instructions := instructions.map (locate (accounts.map AccountMeta.key))

theorem mem_mentions {instructions : List Instruction} {feePayer : Key} {mention : AccountMeta} :
    mention ∈ Roster.mentions instructions feePayer ↔
      mention = ⟨feePayer, true, true⟩ ∨ ∃ instruction ∈ instructions,
        mention ∈ instruction.accounts ∨ mention = ⟨instruction.program, false, false⟩ := by
  simp [Roster.mentions]

theorem roster_perm (instructions : List Instruction) (feePayer : Key) :
    (roster instructions feePayer).Perm (Roster.entries (Roster.mentions instructions feePayer)) :=
  Roster.arrange_perm _

theorem mem_roster_iff {instructions : List Instruction} {feePayer : Key}
    {account : AccountMeta} :
    account ∈ roster instructions feePayer ↔
      account.key ∈ (Roster.mentions instructions feePayer).map AccountMeta.key ∧
        account = Roster.merged (Roster.mentions instructions feePayer) account.key := by
  rw [(roster_perm instructions feePayer).mem_iff, Roster.mem_entries_iff]

theorem mem_keys_roster_iff {instructions : List Instruction} {feePayer key : Key} :
    key ∈ (roster instructions feePayer).map AccountMeta.key ↔
      key ∈ (Roster.mentions instructions feePayer).map AccountMeta.key := by
  rw [((roster_perm instructions feePayer).map _).mem_iff, Roster.keys_entries, List.mem_eraseDups]

theorem nodup_keys_roster (instructions : List Instruction) (feePayer : Key) :
    ((roster instructions feePayer).map AccountMeta.key).Nodup := by
  rw [((roster_perm instructions feePayer).map _).nodup_iff, Roster.keys_entries]
  exact nodup_eraseDups _

theorem indexOf_of_mem {keys : List Key} {key : Key} (present : key ∈ keys) :
    indexOf keys key = .ok (UInt8.ofNat (keys.idxOf key)) := by
  have place : keys.idxOf? key = some (keys.idxOf key) := by
    rw [List.idxOf?_eq_some_iff]
    refine ⟨List.idxOf_lt_length_of_mem present, List.getElem_idxOf _, ?_⟩
    intro earlier before same
    have apart := List.not_of_lt_findIdx before
    rw [same, beq_self_eq_true] at apart
    cases apart
  simp only [indexOf, place]

theorem compileInstruction_of_mem {keys : List Key} {instruction : Instruction}
    (accounts : ∀ account ∈ instruction.accounts, account.key ∈ keys)
    (program : instruction.program ∈ keys) :
    compileInstruction keys instruction = .ok (locate keys instruction) := by
  have places : instruction.accounts.mapM (fun account => indexOf keys account.key) =
      .ok (instruction.accounts.map fun account => UInt8.ofNat (keys.idxOf account.key)) :=
    mapM_eq_ok_map fun account inside => indexOf_of_mem (accounts account inside)
  rw [compileInstruction, places, indexOf_of_mem program]
  rfl

/-- Every account that an instruction names has a place, so only the number of keys is an error. -/
theorem compile_eq (instructions : List Instruction) (feePayer : Key) (blockhash : Blockhash) :
    compile instructions feePayer blockhash =
      if maxAccounts < (roster instructions feePayer).length then
        .error (.serialization
          s!"{(roster instructions feePayer).length} accounts exceed the u8 index space")
      else .ok (ofRoster (roster instructions feePayer) instructions blockhash) := by
  have located : instructions.mapM
      (compileInstruction ((roster instructions feePayer).map AccountMeta.key)) =
        .ok (instructions.map (locate ((roster instructions feePayer).map AccountMeta.key))) := by
    apply mapM_eq_ok_map
    intro instruction inside
    apply compileInstruction_of_mem
    · intro account among
      rw [mem_keys_roster_iff]
      exact List.mem_map_of_mem (mem_mentions.mpr (Or.inr ⟨instruction, inside, Or.inl among⟩))
    · rw [mem_keys_roster_iff]
      exact List.mem_map.mpr
        ⟨_, mem_mentions.mpr (Or.inr ⟨instruction, inside, Or.inr rfl⟩), rfl⟩
  unfold compile
  rw [Roster.collect_eq_entries, ← roster]
  simp only [located]
  split <;> rfl

theorem compile_eq_ok_iff {instructions : List Instruction} {feePayer : Key}
    {blockhash : Blockhash} {message : Message} :
    compile instructions feePayer blockhash = .ok message ↔
      (roster instructions feePayer).length ≤ maxAccounts ∧
        message = ofRoster (roster instructions feePayer) instructions blockhash := by
  rw [compile_eq]
  split
  · rename_i beyond
    simp [Nat.not_le.mpr beyond]
  · rename_i within
    simp [Nat.not_lt.mp within, eq_comm]

/-- The key at a place of the message. -/
def keyAt? (message : Message) (place : UInt8) : Option Key := message.accountKeys[place.toNat]?

theorem keyAt?_idxOf {message : Message} {key : Key}
    (few : message.accountKeys.length ≤ maxAccounts) (present : key ∈ message.accountKeys) :
    message.keyAt? (UInt8.ofNat (message.accountKeys.idxOf key)) = some key := by
  have inside := List.idxOf_lt_length_of_mem present
  have place : (UInt8.ofNat (message.accountKeys.idxOf key)).toNat =
      message.accountKeys.idxOf key := by
    unfold maxAccounts at few
    rw [UInt8.toNat_ofNat', Nat.mod_eq_of_lt (by omega)]
  rw [keyAt?, place, List.getElem?_eq_getElem inside, List.getElem_idxOf]

/-- The places of an instruction lead back to its program and, in order, to its accounts, whichever
of them are the same. -/
theorem keyAt?_locate {instructions : List Instruction} {feePayer : Key} (blockhash : Blockhash)
    (within : (roster instructions feePayer).length ≤ maxAccounts) {instruction : Instruction}
    (among : instruction ∈ instructions) :
    let message := ofRoster (roster instructions feePayer) instructions blockhash
    let placed := locate message.accountKeys instruction
    message.keyAt? placed.programIndex = some instruction.program ∧
      placed.accountIndices.map message.keyAt? =
        (instruction.accounts.map AccountMeta.key).map some := by
  intro message placed
  have few : message.accountKeys.length ≤ maxAccounts := by
    simpa [message, ofRoster] using within
  have named {mention : AccountMeta}
      (asked : mention ∈ instruction.accounts ∨ mention = ⟨instruction.program, false, false⟩) :
      mention.key ∈ message.accountKeys :=
    mem_keys_roster_iff.mpr
      (List.mem_map_of_mem (mem_mentions.mpr (Or.inr ⟨instruction, among, asked⟩)))
  refine ⟨keyAt?_idxOf few (named (Or.inr rfl)), ?_⟩
  simp only [placed, locate, List.map_map]
  apply List.map_congr_left
  intro account inside
  exact keyAt?_idxOf few (named (Or.inl inside))

/-- An instruction of a message stands for one of those compiled. -/
theorem resolves_of_compile {instructions : List Instruction} {feePayer : Key}
    {blockhash : Blockhash} {message : Message}
    (compiled : compile instructions feePayer blockhash = .ok message)
    {placed : CompiledInstruction} (inside : placed ∈ message.instructions) :
    ∃ instruction ∈ instructions,
      message.keyAt? placed.programIndex = some instruction.program ∧
        placed.accountIndices.map message.keyAt? =
          (instruction.accounts.map AccountMeta.key).map some ∧
        placed.data = instruction.data := by
  obtain ⟨within, rfl⟩ := compile_eq_ok_iff.mp compiled
  obtain ⟨instruction, among, rfl⟩ := List.mem_map.mp inside
  obtain ⟨program, accounts⟩ := keyAt?_locate blockhash within among
  exact ⟨instruction, among, program, accounts, rfl⟩

end BridgeClient.Message
