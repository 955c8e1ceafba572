import BridgeClient.Proofs.Ledger.Compile
import BridgeClient.Proofs.Ledger.Transaction

set_option autoImplicit false

/-!
The size of a compiled message, in terms of what was compiled: a part for its roster, the compact
length of the number of instructions, and a load for each instruction.
-/
namespace BridgeClient.Message

/-- Both lists of an instruction can be counted. -/
def Measurable (instruction : Instruction) : Prop :=
  instruction.accounts.length < 65536 ∧ instruction.data.length < 65536

/-- What an instruction takes of a transaction. -/
def load (instruction : Instruction) : Nat :=
  1 + CompactLength.size instruction.accounts.length + instruction.accounts.length +
    CompactLength.size instruction.data.length + instruction.data.length

/-- What all instructions of a group take. -/
def loads : List Instruction → Nat
  | [] => 0
  | first :: rest => load first + loads rest

@[simp] theorem loads_append (front back : List Instruction) :
    loads (front ++ back) = loads front + loads back := by
  induction front with
  | nil => simp [loads]
  | cons first rest ih =>
      rw [List.cons_append, loads, loads, ih]
      omega

/-- Every instruction takes some bytes. -/
theorem length_le_loads (group : List Instruction) : group.length ≤ loads group := by
  induction group with
  | nil => exact Nat.le_refl _
  | cons first rest ih =>
      rw [List.length_cons, loads, load]
      omega

/-- What the signatures, the header, the keys and the blockhash of a group take. -/
def frame (roster : List AccountMeta) (signers : Nat) : Nat :=
  CompactLength.size signers + 64 * signers +
    (3 + CompactLength.size roster.length + 32 * roster.length + 32)

theorem countable_locate {keys : List Key} {instruction : Instruction} :
    (locate keys instruction).Countable ↔ Measurable instruction := by
  simp [CompiledInstruction.Countable, locate, Measurable]

theorem length_layout_locate {keys : List Key} {instruction : Instruction}
    (measurable : Measurable instruction) :
    (locate keys instruction).layout.length = load instruction := by
  rw [CompiledInstruction.length_layout (countable_locate.mpr measurable)]
  simp [locate, load]

theorem countable_ofRoster {roster : List AccountMeta} {group : List Instruction}
    {blockhash : Blockhash} :
    (ofRoster roster group blockhash).Countable ↔
      roster.length < 65536 ∧ group.length < 65536 ∧
        ∀ instruction ∈ group, Measurable instruction := by
  constructor
  · intro countable
    refine ⟨by simpa [ofRoster] using countable.keys,
      by simpa [ofRoster] using countable.instructions, ?_⟩
    intro instruction inside
    exact countable_locate.mp (countable.each _ (List.mem_map_of_mem inside))
  · intro parts
    obtain ⟨keys, instructions, each⟩ := parts
    refine ⟨by simpa [ofRoster] using keys,
      by simpa [ofRoster] using instructions, ?_⟩
    intro compiled inside
    obtain ⟨instruction, among, rfl⟩ := List.mem_map.mp inside
    exact countable_locate.mpr (each instruction among)

theorem length_layouts_locate {keys : List Key} {group : List Instruction}
    (measurable : ∀ instruction ∈ group, Measurable instruction) :
    ((group.map (locate keys)).map CompiledInstruction.layout).flatten.length = loads group := by
  induction group with
  | nil => rfl
  | cons first rest ih =>
      obtain ⟨here, later⟩ := List.forall_mem_cons.mp measurable
      rw [List.map_cons, List.map_cons, List.flatten_cons, List.length_append,
        length_layout_locate here, ih later, loads]

theorem signedSize_ofRoster {roster : List AccountMeta} {group : List Instruction}
    {blockhash : Blockhash} (signers : Nat)
    (countable : (ofRoster roster group blockhash).Countable) :
    Transaction.signedSize signers (ofRoster roster group blockhash) =
      frame roster signers + CompactLength.size group.length + loads group := by
  have measurable := (countable_ofRoster.mp countable).2.2
  rw [Transaction.signedSize, length_layout countable]
  simp only [ofRoster, List.length_map, length_layouts_locate measurable, frame]
  omega

end BridgeClient.Message
