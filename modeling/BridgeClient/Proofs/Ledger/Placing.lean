import BridgeClient.Proofs.Ledger.Header
import Mathlib.Data.Finset.Card

set_option autoImplicit false

/-!
Where compiling puts the keys. A message names every key once, in an order that the instructions and
the fee payer settle: by group, and within a group by first mention. There is no message exactly when
more keys are named than places can tell apart.
-/
namespace BridgeClient

theorem eraseDups_pairwise_idxOf {α : Type} [DecidableEq α] (items : List α) :
    items.eraseDups.Pairwise fun first second => items.idxOf first < items.idxOf second := by
  suffices ∀ front back : List α,
      (front.eraseDups.Pairwise fun first second => front.idxOf first < front.idxOf second) →
        (front ++ back).eraseDups.Pairwise fun first second =>
          (front ++ back).idxOf first < (front ++ back).idxOf second by
    simpa using this [] items (by simp)
  intro front back
  induction back generalizing front with
  | nil => simp
  | cons item rest ih =>
      intro rising
      rw [← List.singleton_append, ← List.append_assoc]
      apply ih
      have still : front.eraseDups.Pairwise fun first second =>
          (front ++ [item]).idxOf first < (front ++ [item]).idxOf second := by
        apply rising.imp_of_mem
        intro first second inside among below
        rwa [List.idxOf_append_of_mem (List.mem_eraseDups.mp inside),
          List.idxOf_append_of_mem (List.mem_eraseDups.mp among)]
      rw [eraseDups_append_singleton]
      split
      · exact still
      · rename_i fresh
        rw [List.pairwise_append]
        refine ⟨still, List.pairwise_singleton .., ?_⟩
        intro first inside second last
        rw [List.mem_singleton.mp last, List.idxOf_append_of_mem (List.mem_eraseDups.mp inside),
          List.idxOf_append_of_notMem fresh]
        have := List.idxOf_lt_length_of_mem (List.mem_eraseDups.mp inside)
        omega

/-- Arranging keeps the order within a group. -/
theorem Roster.arrange_pairwise {accounts : List AccountMeta}
    {before : AccountMeta → AccountMeta → Prop} (ordered : accounts.Pairwise before) :
    (arrange accounts).Pairwise fun first second =>
      first.group < second.group ∨ first.group = second.group ∧ before first second := by
  have run (group : Nat) : (members accounts group).Pairwise fun first second =>
      first.group < second.group ∨ first.group = second.group ∧ before first second := by
    apply (ordered.filter _).imp_of_mem
    intro first second inside among earlier
    exact Or.inr ⟨(mem_members.mp inside).2.trans (mem_members.mp among).2.symm, earlier⟩
  have across {low high : Nat} (below : low < high) {first second : AccountMeta}
      (inside : first ∈ members accounts low) (among : second ∈ members accounts high) :
      first.group < second.group ∨ first.group = second.group ∧ before first second := by
    rw [(mem_members.mp inside).2, (mem_members.mp among).2]
    exact Or.inl below
  simp only [arrange_eq, List.pairwise_append, List.mem_append, run, true_and]
  refine ⟨fun _ inside _ among => across (by decide) inside among,
    fun _ inside _ among => across (by decide) inside among, ?_⟩
  rintro first (inside | inside) second (among | among)
  all_goals exact across (by decide) inside among

namespace Message

instance (instructions : List Instruction) (feePayer key : Key) :
    Decidable (MustSign instructions feePayer key) :=
  inferInstanceAs (Decidable (_ ∨ _))

instance (instructions : List Instruction) (feePayer key : Key) :
    Decidable (MayWrite instructions feePayer key) :=
  inferInstanceAs (Decidable (_ ∨ _))

/-- The keys to be named, one for each time that one is: the fee payer, then per instruction its
accounts and its program. -/
def namings (instructions : List Instruction) (feePayer : Key) : List Key :=
  feePayer :: instructions.flatMap fun instruction =>
    instruction.accounts.map AccountMeta.key ++ [instruction.program]

/-- Writable signers, read-only signers, writable accounts that do not sign, and the rest: the group
of a key by all the roles that are asked for it. -/
def groupOf (instructions : List Instruction) (feePayer key : Key) : Nat :=
  if MustSign instructions feePayer key then
    if MayWrite instructions feePayer key then 0 else 1
  else if MayWrite instructions feePayer key then 2 else 3

/-- The order of the keys: by group, and within a group by first mention. -/
def Precedes (instructions : List Instruction) (feePayer first second : Key) : Prop :=
  groupOf instructions feePayer first < groupOf instructions feePayer second ∨
    groupOf instructions feePayer first = groupOf instructions feePayer second ∧
      (namings instructions feePayer).idxOf first < (namings instructions feePayer).idxOf second

/-- A list of the keys to be named, each once and in their order. -/
structure ListsKeys (instructions : List Instruction) (feePayer : Key) (keys : List Key) :
    Prop where
  once : keys.Nodup
  named : ∀ key, key ∈ keys ↔ key ∈ namings instructions feePayer
  payerFirst : keys.head? = some feePayer
  ordered : keys.Pairwise (Precedes instructions feePayer)

/-- An instruction of a message leads back to one that was compiled: the key at the place of its
program, the keys at the places of its accounts, and its data. -/
structure Resolves (message : Message) (placed : CompiledInstruction) (instruction : Instruction) :
    Prop where
  program : message.keyAt? placed.programIndex = some instruction.program
  accounts : placed.accountIndices.map message.keyAt? =
    (instruction.accounts.map AccountMeta.key).map some
  data : placed.data = instruction.data

section Keys

variable {instructions : List Instruction} {feePayer : Key}

theorem namings_eq (instructions : List Instruction) (feePayer : Key) :
    namings instructions feePayer = (Roster.mentions instructions feePayer).map AccountMeta.key := by
  simp [namings, Roster.mentions, List.map_flatMap]

theorem keys_entries_mentions (instructions : List Instruction) (feePayer : Key) :
    (Roster.entries (Roster.mentions instructions feePayer)).map AccountMeta.key =
      (namings instructions feePayer).eraseDups := by
  rw [Roster.keys_entries, namings_eq]

theorem length_roster (instructions : List Instruction) (feePayer : Key) :
    (roster instructions feePayer).length = (namings instructions feePayer).toFinset.card := by
  have same : (namings instructions feePayer).eraseDups.toFinset =
      (namings instructions feePayer).toFinset := by
    ext key
    simp
  rw [← same, List.toFinset_card_of_nodup (nodup_eraseDups _), ← keys_entries_mentions,
    List.length_map, (roster_perm instructions feePayer).length_eq]

theorem group_of_mem {account : AccountMeta} (inside : account ∈ roster instructions feePayer) :
    account.group = groupOf instructions feePayer account.key := by
  have signs := isSigner_iff_of_mem inside
  have writes := isWritable_iff_of_mem inside
  simp only [AccountMeta.group, groupOf, signs, writes]

theorem groupOf_payer (instructions : List Instruction) (feePayer : Key) :
    groupOf instructions feePayer feePayer = 0 := by
  have signs : MustSign instructions feePayer feePayer := Or.inl rfl
  have writes : MayWrite instructions feePayer feePayer := Or.inl rfl
  rw [groupOf, if_pos signs, if_pos writes]

theorem keys_roster_ordered (instructions : List Instruction) (feePayer : Key) :
    ((roster instructions feePayer).map AccountMeta.key).Pairwise
      (Precedes instructions feePayer) := by
  have mentioned : (Roster.entries (Roster.mentions instructions feePayer)).Pairwise
      fun first second => (namings instructions feePayer).idxOf first.key <
        (namings instructions feePayer).idxOf second.key := by
    have rising := eraseDups_pairwise_idxOf (namings instructions feePayer)
    rw [← keys_entries_mentions, List.pairwise_map] at rising
    exact rising
  rw [List.pairwise_map]
  apply (Roster.arrange_pairwise mentioned).imp_of_mem
  intro first second inside among earlier
  rwa [group_of_mem inside, group_of_mem among] at earlier

/-- Nothing precedes the fee payer, whose group is the first and whose mention is the first. -/
theorem not_precedes_payer (key : Key) : ¬ Precedes instructions feePayer key feePayer := by
  have mentioned : (namings instructions feePayer).idxOf feePayer = 0 := List.idxOf_cons_self
  unfold Precedes
  rw [groupOf_payer, mentioned]
  omega

theorem listsKeys_roster (instructions : List Instruction) (feePayer : Key) :
    ListsKeys instructions feePayer ((roster instructions feePayer).map AccountMeta.key) := by
  have ordered := keys_roster_ordered instructions feePayer
  have named (key : Key) : key ∈ (roster instructions feePayer).map AccountMeta.key ↔
      key ∈ namings instructions feePayer := by
    rw [mem_keys_roster_iff, namings_eq]
  refine ⟨nodup_keys_roster instructions feePayer, named, ?_, ordered⟩
  have payer := (named feePayer).mpr (List.mem_cons_self ..)
  cases keys : (roster instructions feePayer).map AccountMeta.key with
  | nil =>
      rw [keys] at payer
      cases payer
  | cons key rest =>
      rw [keys] at payer ordered
      rcases List.mem_cons.mp payer with same | later
      · rw [same, List.head?_cons]
      · exact absurd (List.rel_of_pairwise_cons ordered later) (not_precedes_payer key)

/-- The order leaves no choice. -/
theorem ListsKeys.unique {keys others : List Key} (lists : ListsKeys instructions feePayer keys)
    (also : ListsKeys instructions feePayer others) : keys = others := by
  have same : keys.Perm others := by
    rw [List.perm_ext_iff_of_nodup lists.once also.once]
    intro key
    rw [lists.named, also.named]
  refine same.eq_of_pairwise ?_ lists.ordered also.ordered
  intro first second _ _ before after
  unfold Precedes at before after
  omega

end Keys

/-- What compiling comes to. -/
inductive Compiles (instructions : List Instruction) (feePayer : Key) (blockhash : Blockhash) :
    Except BridgeError Message → Prop
  | crowded (many : 256 < (namings instructions feePayer).toFinset.card) :
      Compiles instructions feePayer blockhash
        (.error (.serialization
          s!"{(namings instructions feePayer).toFinset.card} accounts exceed the u8 index space"))
  | placed {message : Message} (few : (namings instructions feePayer).toFinset.card ≤ 256)
      (keys : ListsKeys instructions feePayer message.accountKeys)
      (only : ∀ keys, ListsKeys instructions feePayer keys → keys = message.accountKeys)
      (resolved : List.Forall₂ (Resolves message) message.instructions instructions)
      (blockhash_eq : message.blockhash = blockhash) :
      Compiles instructions feePayer blockhash (.ok message)

/-- Whatever the instructions name, and however often: there is a message unless more than 256 keys
are named, which is the only error, so no account is ever missing. -/
theorem compile_places_keys (instructions : List Instruction) (feePayer : Key)
    (blockhash : Blockhash) :
    Compiles instructions feePayer blockhash (compile instructions feePayer blockhash) := by
  have length := length_roster instructions feePayer
  rw [compile_eq, length]
  split
  · rename_i many
    exact .crowded many
  · rename_i few
    have within : (roster instructions feePayer).length ≤ maxAccounts := by omega
    have lists := listsKeys_roster instructions feePayer
    refine .placed (Nat.not_lt.mp few) lists (fun keys also => also.unique lists) ?_ rfl
    rw [ofRoster, List.forall₂_map_left_iff, List.forall₂_same]
    intro instruction inside
    obtain ⟨program, accounts⟩ := keyAt?_locate blockhash within inside
    exact ⟨program, accounts, rfl⟩

/-- A program that is also an account, an account that is only a signer at its second mention, and
the fee payer named once more without a role. -/
example :
    let accounts := [AccountMeta.readOnly (Key.fill 9) false, .readOnly (Key.fill 2) true,
      .readOnly (Key.fill 1) false, .writable (Key.fill 9) true]
    compile [⟨Key.fill 7, accounts, [5]⟩, ⟨Key.fill 2, [], []⟩] (Key.fill 1)
        (FixedBytes.fill 32 3) =
      .ok ⟨3, 1, 1, [Key.fill 1, Key.fill 9, Key.fill 2, Key.fill 7], FixedBytes.fill 32 3,
        [⟨3, [1, 2, 0, 1], [5]⟩, ⟨2, [], []⟩]⟩ := by
  rfl

end Message
end BridgeClient
