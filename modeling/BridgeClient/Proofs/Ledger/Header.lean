import BridgeClient.Proofs.Ledger.Compile
import BridgeClient.Proofs.Ledger.Transaction

set_option autoImplicit false

/-!
The roles that the ledger reads from the three counts of a header, against the roles that were asked
for. Counts are bytes and a message may have 256 keys, so the two agree exactly as long as not all
of 256 keys sign: then the count of signers is read as zero.
-/
namespace BridgeClient.Message

/-- A key that has to sign: the fee payer, and each that an account entry flags as a signer. -/
def MustSign (instructions : List Instruction) (feePayer key : Key) : Prop :=
  key = feePayer ∨ ∃ instruction ∈ instructions, ∃ account ∈ instruction.accounts,
    account.key = key ∧ account.isSigner = true

/-- A key that may be written to: the fee payer, and each that an entry flags as writable. -/
def MayWrite (instructions : List Instruction) (feePayer key : Key) : Prop :=
  key = feePayer ∨ ∃ instruction ∈ instructions, ∃ account ∈ instruction.accounts,
    account.key = key ∧ account.isWritable = true

/-- The header counts a place among the signers. -/
def SignsAt (message : Message) (place : Nat) : Prop := place < message.requiredSignatures.toNat

/-- The header counts a place among the writable signers or the other writable accounts. -/
def WritesAt (message : Message) (place : Nat) : Prop :=
  place < message.requiredSignatures.toNat - message.readOnlySigned.toNat ∨
    message.requiredSignatures.toNat ≤ place ∧
      place < message.accountKeys.length - message.readOnlyUnsigned.toNat

/-- At every place the header gives the roles that were asked for. -/
def HeaderTells (message : Message) (instructions : List Instruction) (feePayer : Key) : Prop :=
  ∀ place key, message.accountKeys[place]? = some key →
    (message.SignsAt place ↔ MustSign instructions feePayer key) ∧
      (message.WritesAt place ↔ MayWrite instructions feePayer key)

/-- More signers than a byte counts. -/
def AllSign (message : Message) (instructions : List Instruction) (feePayer : Key) : Prop :=
  message.accountKeys.length = 256 ∧ ∀ key ∈ message.accountKeys, MustSign instructions feePayer key

section Roles

variable {instructions : List Instruction} {feePayer : Key}

theorem mustSign_mem_keys {key : Key} (signs : MustSign instructions feePayer key) :
    key ∈ (roster instructions feePayer).map AccountMeta.key := by
  rw [mem_keys_roster_iff, List.mem_map]
  rcases signs with rfl | ⟨instruction, inside, account, among, rfl, _⟩
  · exact ⟨_, mem_mentions.mpr (Or.inl rfl), rfl⟩
  · exact ⟨account, mem_mentions.mpr (Or.inr ⟨instruction, inside, Or.inl among⟩), rfl⟩

/-- A role that programs do not ask for, and which the fee payer has. -/
private theorem asked_iff (role : AccountMeta → Bool) (key : Key)
    (payer : role ⟨feePayer, true, true⟩ = true)
    (program : ∀ other, role ⟨other, false, false⟩ = false) :
    (∃ mention ∈ Roster.mentions instructions feePayer,
        mention.key = key ∧ role mention = true) ↔
      key = feePayer ∨ ∃ instruction ∈ instructions, ∃ account ∈ instruction.accounts,
        account.key = key ∧ role account = true := by
  simp only [mem_mentions]
  constructor
  · intro asked
    obtain ⟨mention, rfl | ⟨instruction, inside, among | rfl⟩, rfl, asks⟩ := asked
    · exact Or.inl rfl
    · exact Or.inr ⟨instruction, inside, mention, among, rfl, asks⟩
    · rw [program] at asks
      cases asks
  · intro asked
    rcases asked with rfl | ⟨instruction, inside, account, among, rfl, asks⟩
    · exact ⟨_, Or.inl rfl, rfl, payer⟩
    · exact ⟨account, Or.inr ⟨instruction, inside, Or.inl among⟩, rfl, asks⟩

theorem isSigner_iff_of_mem {account : AccountMeta}
    (inside : account ∈ roster instructions feePayer) :
    account.isSigner = true ↔ MustSign instructions feePayer account.key := by
  rw [(mem_roster_iff.mp inside).2, Roster.merged_isSigner_iff]
  exact asked_iff AccountMeta.isSigner account.key rfl fun _ => rfl

theorem isWritable_iff_of_mem {account : AccountMeta}
    (inside : account ∈ roster instructions feePayer) :
    account.isWritable = true ↔ MayWrite instructions feePayer account.key := by
  rw [(mem_roster_iff.mp inside).2, Roster.merged_isWritable_iff]
  exact asked_iff AccountMeta.isWritable account.key rfl fun _ => rfl

end Roles

theorem isSigner_iff_group_lt (account : AccountMeta) :
    account.isSigner = true ↔ account.group < 2 := by
  rcases account with ⟨key, isSigner, isWritable⟩
  cases isSigner <;> cases isWritable <;> simp [AccountMeta.group]

theorem isWritable_iff_group (account : AccountMeta) :
    account.isWritable = true ↔ account.group < 1 ∨ 2 ≤ account.group ∧ account.group < 3 := by
  rcases account with ⟨key, isSigner, isWritable⟩
  cases isSigner <;> cases isWritable <;> simp [AccountMeta.group]

private theorem countP_add {first second both : AccountMeta → Bool}
    (split : ∀ account, (first account).toNat + (second account).toNat = (both account).toNat)
    (accounts : List AccountMeta) :
    accounts.countP first + accounts.countP second = accounts.countP both := by
  induction accounts with
  | nil => rfl
  | cons account rest ih =>
      have unit (test : Bool) : (if test = true then 1 else 0) = test.toNat := by
        cases test <;> rfl
      have here := split account
      simp only [List.countP_cons, unit]
      omega

theorem countP_signers (accounts : List AccountMeta) :
    accounts.countP (fun a => a.isSigner) = accounts.countP (fun a => a.group < 2) := by
  apply List.countP_congr
  intro account _
  simp [isSigner_iff_group_lt]

theorem countP_readOnlySigned (accounts : List AccountMeta) :
    accounts.countP (fun a => a.group < 1) +
        accounts.countP (fun a => a.isSigner && !a.isWritable) =
      accounts.countP (fun a => a.group < 2) := by
  apply countP_add
  intro account
  obtain ⟨key, isSigner, isWritable⟩ := account
  cases isSigner <;> cases isWritable <;> rfl

theorem countP_readOnlyUnsigned (accounts : List AccountMeta) :
    accounts.countP (fun a => a.group < 3) +
        accounts.countP (fun a => !a.isSigner && !a.isWritable) = accounts.length := by
  rw [← congrFun List.countP_true accounts]
  apply countP_add
  intro account
  obtain ⟨key, isSigner, isWritable⟩ := account
  cases isSigner <;> cases isWritable <;> rfl

theorem toNat_count (accounts : List AccountMeta) (test : AccountMeta → Bool) :
    (count accounts test).toNat = accounts.countP test % 256 := UInt8.toNat_ofNat'

/-- The number of entries that sign. -/
def signers (instructions : List Instruction) (feePayer : Key) : Nat :=
  (roster instructions feePayer).countP fun a => a.isSigner

section Header

variable {instructions : List Instruction} {feePayer : Key} {blockhash : Blockhash}

theorem exists_payer (instructions : List Instruction) (feePayer : Key) :
    ∃ account ∈ roster instructions feePayer, account.group < 1 := by
  have payer : MustSign instructions feePayer feePayer := Or.inl rfl
  obtain ⟨account, inside, named⟩ := List.mem_map.mp (mustSign_mem_keys payer)
  refine ⟨account, inside, ?_⟩
  have signs := (isSigner_iff_of_mem inside).mpr (Or.inl named)
  have writes := (isWritable_iff_of_mem inside).mpr (Or.inl named)
  simp [AccountMeta.group, signs, writes]

/-- Only the count of signers can reach 256: the fee payer is in neither of the other two. -/
theorem counts_of_le (blockhash : Blockhash)
    (within : (roster instructions feePayer).length ≤ maxAccounts) :
    (ofRoster (roster instructions feePayer) instructions blockhash).requiredSignatures.toNat =
        signers instructions feePayer % 256 ∧
      (ofRoster (roster instructions feePayer) instructions blockhash).readOnlySigned.toNat =
        (roster instructions feePayer).countP (fun a => a.isSigner && !a.isWritable) ∧
      (ofRoster (roster instructions feePayer) instructions blockhash).readOnlyUnsigned.toNat =
        (roster instructions feePayer).countP (fun a => !a.isSigner && !a.isWritable) := by
  obtain ⟨payer, inside, first⟩ := exists_payer instructions feePayer
  have some_first : 0 < (roster instructions feePayer).countP fun a => a.group < 1 :=
    List.countP_pos_iff.mpr ⟨payer, inside, by simpa using first⟩
  have some_third : 0 < (roster instructions feePayer).countP fun a => a.group < 3 := by
    refine List.countP_pos_iff.mpr ⟨payer, inside, ?_⟩
    simp only [decide_eq_true_eq]
    omega
  have signed := countP_readOnlySigned (roster instructions feePayer)
  have unsigned := countP_readOnlyUnsigned (roster instructions feePayer)
  have bound := List.countP_le_length (p := fun a : AccountMeta => decide (a.group < 2))
    (l := roster instructions feePayer)
  unfold maxAccounts at within
  refine ⟨toNat_count _ _, (toNat_count _ _).trans (Nat.mod_eq_of_lt ?_),
    (toNat_count _ _).trans (Nat.mod_eq_of_lt ?_)⟩
  · omega
  · omega

theorem allSign_iff (within : (roster instructions feePayer).length ≤ maxAccounts) :
    (ofRoster (roster instructions feePayer) instructions blockhash).AllSign instructions feePayer ↔
      signers instructions feePayer = 256 := by
  have every : (∀ account ∈ roster instructions feePayer, account.isSigner = true) ↔
      ∀ key ∈ (roster instructions feePayer).map AccountMeta.key,
        MustSign instructions feePayer key := by
    constructor
    · intro sign key among
      obtain ⟨account, inside, rfl⟩ := List.mem_map.mp among
      exact (isSigner_iff_of_mem inside).mp (sign account inside)
    · intro sign account inside
      exact (isSigner_iff_of_mem inside).mpr (sign _ (List.mem_map_of_mem inside))
  have bound := List.countP_le_length (p := fun a : AccountMeta => a.isSigner)
    (l := roster instructions feePayer)
  unfold AllSign signers maxAccounts at *
  simp only [ofRoster, List.length_map, ← every]
  constructor
  · intro full
    obtain ⟨full, sign⟩ := full
    rw [List.countP_eq_length.mpr sign, full]
  · intro full
    have length : (roster instructions feePayer).length = 256 := by omega
    exact ⟨length, List.countP_eq_length.mp (full.trans length.symm)⟩

/-- The counts mark off the groups of the roster. -/
theorem headerTells_of_lt (within : (roster instructions feePayer).length ≤ maxAccounts)
    (few : signers instructions feePayer < 256) :
    (ofRoster (roster instructions feePayer) instructions blockhash).HeaderTells
      instructions feePayer := by
  obtain ⟨required, readOnlySigned, readOnlyUnsigned⟩ := counts_of_le blockhash within
  rw [Nat.mod_eq_of_lt few] at required
  intro place key found
  obtain ⟨account, there, rfl⟩ : ∃ account,
      (roster instructions feePayer)[place]? = some account ∧ account.key = key := by
    simpa [ofRoster, List.getElem?_map] using found
  have inside := List.mem_of_getElem? there
  have sorted := Roster.arrange_sorted (Roster.entries (Roster.mentions instructions feePayer))
  have first := Roster.place_lt_countP_iff sorted 1 there
  have second := Roster.place_lt_countP_iff sorted 2 there
  have third := Roster.place_lt_countP_iff sorted 3 there
  have low := countP_signers (roster instructions feePayer)
  have signed := countP_readOnlySigned (roster instructions feePayer)
  have unsigned := countP_readOnlyUnsigned (roster instructions feePayer)
  rw [← isSigner_iff_of_mem inside, ← isWritable_iff_of_mem inside, isSigner_iff_group_lt,
    isWritable_iff_group]
  unfold SignsAt WritesAt
  rw [required, readOnlySigned, readOnlyUnsigned]
  simp only [ofRoster, List.length_map]
  unfold signers roster at *
  constructor <;> omega

theorem mem_signerKeys_iff {message : Message} {key : Key} :
    key ∈ message.signerKeys ↔
      ∃ place, message.SignsAt place ∧ message.accountKeys[place]? = some key := by
  unfold signerKeys SignsAt
  rw [List.mem_iff_getElem?]
  constructor
  · intro inside
    obtain ⟨place, found⟩ := inside
    rw [List.getElem?_take] at found
    split at found
    · exact ⟨place, ‹_›, found⟩
    · cases found
  · intro inside
    obtain ⟨place, early, found⟩ := inside
    exact ⟨place, by rw [List.getElem?_take, if_pos early, found]⟩

variable {message : Message}

theorem mustSign_mem_accountKeys (compiled : compile instructions feePayer blockhash = .ok message)
    {key : Key} (signs : MustSign instructions feePayer key) : key ∈ message.accountKeys := by
  obtain ⟨_, rfl⟩ := compile_eq_ok_iff.mp compiled
  exact mustSign_mem_keys signs

theorem headerTells_of_compile (compiled : compile instructions feePayer blockhash = .ok message)
    (room : ¬ message.AllSign instructions feePayer) :
    message.HeaderTells instructions feePayer := by
  obtain ⟨within, rfl⟩ := compile_eq_ok_iff.mp compiled
  rw [allSign_iff within] at room
  have bound := List.countP_le_length (p := fun a : AccountMeta => a.isSigner)
    (l := roster instructions feePayer)
  apply headerTells_of_lt within
  unfold signers maxAccounts at *
  omega

theorem mem_signerKeys_iff_mustSign
    (compiled : compile instructions feePayer blockhash = .ok message)
    (tells : message.HeaderTells instructions feePayer) (key : Key) :
    key ∈ message.signerKeys ↔ MustSign instructions feePayer key := by
  rw [mem_signerKeys_iff]
  constructor
  · intro asked
    obtain ⟨place, early, found⟩ := asked
    exact (tells place key found).1.mp early
  · intro signs
    obtain ⟨place, found⟩ := List.mem_iff_getElem?.mp (mustSign_mem_accountKeys compiled signs)
    exact ⟨place, (tells place key found).1.mpr signs, found⟩

/-- The header never asks for more signatures than there are keys. -/
theorem length_signerKeys (compiled : compile instructions feePayer blockhash = .ok message) :
    message.signerKeys.length = message.requiredSignatures.toNat := by
  obtain ⟨within, rfl⟩ := compile_eq_ok_iff.mp compiled
  have required := (counts_of_le blockhash within).1
  have bound := List.countP_le_length (p := fun account : AccountMeta => account.isSigner)
    (l := roster instructions feePayer)
  have wrapped := Nat.mod_le (signers instructions feePayer) 256
  unfold signers at *
  rw [signerKeys, List.length_take]
  simp only [ofRoster, List.length_map] at required ⊢
  omega

theorem nodup_signerKeys (compiled : compile instructions feePayer blockhash = .ok message) :
    message.signerKeys.Nodup := by
  obtain ⟨_, rfl⟩ := compile_eq_ok_iff.mp compiled
  exact (nodup_keys_roster instructions feePayer).sublist (List.take_sublist _ _)

/-- There is no room for 256 keys in a transaction. -/
theorem not_allSign_of_small (countable : message.Countable)
    (small : message.layout.length ≤ Transaction.maxSize) (instructions : List Instruction)
    (feePayer : Key) : ¬ message.AllSign instructions feePayer := by
  intro full
  have size := length_layout countable
  rw [full.1] at size
  unfold Transaction.maxSize at small
  omega

/-- Keys that must sign are those that the header asks for, in all that fits. -/
theorem mem_signerKeys_iff_of_small
    (compiled : compile instructions feePayer blockhash = .ok message)
    (countable : message.Countable) (small : message.layout.length ≤ Transaction.maxSize)
    (key : Key) : key ∈ message.signerKeys ↔ MustSign instructions feePayer key := by
  have room := not_allSign_of_small countable small instructions feePayer
  exact mem_signerKeys_iff_mustSign compiled (headerTells_of_compile compiled room) key

/-- With 256 signers nobody is asked to sign. -/
theorem signerKeys_of_allSign (compiled : compile instructions feePayer blockhash = .ok message)
    (full : message.AllSign instructions feePayer) : message.signerKeys = [] := by
  obtain ⟨within, rfl⟩ := compile_eq_ok_iff.mp compiled
  have required := (counts_of_le blockhash within).1
  rw [(allSign_iff within).mp full] at required
  rw [signerKeys, required]
  rfl

theorem not_mustSign_iff_of_allSign
    (compiled : compile instructions feePayer blockhash = .ok message)
    (full : message.AllSign instructions feePayer) :
    ¬ ∀ key, key ∈ message.signerKeys ↔ MustSign instructions feePayer key := by
  intro exactly
  have signs := (exactly feePayer).mpr (Or.inl rfl)
  rw [signerKeys_of_allSign compiled full] at signs
  cases signs

theorem assemble_of_allSign (compiled : compile instructions feePayer blockhash = .ok message)
    (full : message.AllSign instructions feePayer) (signatures : SignatureMap) :
    Transaction.assemble message signatures = .ok ⟨[], message⟩ := by
  rw [Transaction.assemble_eq, signerKeys_of_allSign compiled full]
  rfl

/-- The header tells the roles that were asked for, the keys it makes signers are those that must
sign, and a transaction is refused unless they all did, each exactly when not all of 256 sign. -/
theorem header_tells_iff (compiled : compile instructions feePayer blockhash = .ok message) :
    (message.HeaderTells instructions feePayer ↔ ¬ message.AllSign instructions feePayer) ∧
      ((∀ key, key ∈ message.signerKeys ↔ MustSign instructions feePayer key) ↔
        ¬ message.AllSign instructions feePayer) ∧
      ((∀ signatures : SignatureMap,
          (∃ key, MustSign instructions feePayer key ∧ signatures.find? key = none) →
            ∃ text, Transaction.assemble message signatures = .error (.signing text)) ↔
        ¬ message.AllSign instructions feePayer) := by
  have exact_of_room (room : ¬ message.AllSign instructions feePayer) :=
    mem_signerKeys_iff_mustSign compiled (headerTells_of_compile compiled room)
  refine ⟨⟨?_, headerTells_of_compile compiled⟩, ⟨?_, exact_of_room⟩, ⟨?_, ?_⟩⟩
  · intro tells full
    exact not_mustSign_iff_of_allSign compiled full (mem_signerKeys_iff_mustSign compiled tells)
  · intro exactly full
    exact not_mustSign_iff_of_allSign compiled full exactly
  · intro refuses full
    obtain ⟨text, refused⟩ := refuses .empty ⟨feePayer, Or.inl rfl, rfl⟩
    rw [assemble_of_allSign compiled full] at refused
    cases refused
  · intro room signatures unsigned
    obtain ⟨key, signs, missing⟩ := unsigned
    exact Transaction.assemble_refuses ((exact_of_room room key).mpr signs) missing

/-- Five keys in four roles, of which two sign. -/
theorem header_tells_iff_five_keys :
    let accounts := [AccountMeta.readOnly (Key.fill 1) true,
      AccountMeta.writable (Key.fill 2) false, AccountMeta.readOnly (Key.fill 3) true,
      AccountMeta.readOnly (Key.fill 4) false]
    let message : Message := ⟨2, 1, 2,
      [Key.fill 1, Key.fill 3, Key.fill 2, Key.fill 4, Key.fill 9], FixedBytes.fill 32 7,
      [⟨4, [0, 2, 1, 3], [1, 2, 3]⟩]⟩
    compile [⟨Key.fill 9, accounts, [1, 2, 3]⟩] (Key.fill 1) (FixedBytes.fill 32 7) = .ok message ∧
      message.HeaderTells [⟨Key.fill 9, accounts, [1, 2, 3]⟩] (Key.fill 1) := by
  intro accounts message
  have compiled : compile [⟨Key.fill 9, accounts, [1, 2, 3]⟩] (Key.fill 1) (FixedBytes.fill 32 7) =
      .ok message := rfl
  refine ⟨compiled, (header_tells_iff compiled).1.mpr ?_⟩
  intro full
  obtain ⟨full, _⟩ := full
  cases full

end Header

/-- The instruction of some accounts that all sign, run by a program that is one of them. -/
def gathering (keys : List Key) (program : Key) : Instruction :=
  ⟨program, keys.map fun key => AccountMeta.readOnly key true, []⟩

theorem mustSign_gathering {keys : List Key} {payer : Key} (payer_mem : payer ∈ keys) (key : Key) :
    MustSign [gathering keys payer] payer key ↔ key ∈ keys := by
  unfold MustSign gathering
  constructor
  · intro signs
    rcases signs with rfl | ⟨instruction, only, account, among, rfl, _⟩
    · exact payer_mem
    · cases List.mem_singleton.mp only
      obtain ⟨key, present, rfl⟩ := List.mem_map.mp among
      exact present
  · intro inside
    exact Or.inr ⟨_, List.mem_singleton_self _, _, List.mem_map_of_mem inside, rfl, rfl⟩

theorem keys_roster_gathering {keys : List Key} {payer : Key} (distinct : keys.Nodup)
    (payer_mem : payer ∈ keys) :
    ((roster [gathering keys payer] payer).map AccountMeta.key).Perm keys := by
  rw [List.perm_ext_iff_of_nodup (nodup_keys_roster _ _) distinct]
  intro key
  constructor
  · intro named
    rw [mem_keys_roster_iff, List.mem_map] at named
    obtain ⟨mention, among, rfl⟩ := named
    rcases mem_mentions.mp among with rfl | ⟨instruction, only, inside | rfl⟩
    · exact payer_mem
    · cases List.mem_singleton.mp only
      obtain ⟨key, present, rfl⟩ := List.mem_map.mp inside
      exact present
    · cases List.mem_singleton.mp only
      exact payer_mem
  · intro inside
    exact mustSign_mem_keys ((mustSign_gathering payer_mem key).mpr inside)

theorem allSign_gathering {keys : List Key} {payer : Key} (distinct : keys.Nodup)
    (full : keys.length = 256) (payer_mem : payer ∈ keys) (blockhash : Blockhash) :
    ∃ message, compile [gathering keys payer] payer blockhash = .ok message ∧
      message.AllSign [gathering keys payer] payer := by
  have named := keys_roster_gathering distinct payer_mem
  have length : (roster [gathering keys payer] payer).length = 256 := by
    rw [← full, ← named.length_eq, List.length_map]
  refine ⟨ofRoster (roster [gathering keys payer] payer) [gathering keys payer] blockhash,
    compile_eq_ok_iff.mpr ⟨Nat.le_of_eq length, rfl⟩, ?_, ?_⟩
  · simp only [ofRoster, List.length_map, length]
  · intro key inside
    exact (mustSign_gathering payer_mem key).mpr (named.mem_iff.mp inside)

/-- The keys of one repeated byte. -/
def uniformKeys : List Key := (List.range 256).map fun n => Key.fill (UInt8.ofNat n)

theorem nodup_uniformKeys : uniformKeys.Nodup := by
  rw [List.Nodup, uniformKeys, List.pairwise_map]
  apply List.nodup_range.imp_of_mem
  intro first second inside among apart same
  have bytes : UInt8.ofNat first = UInt8.ofNat second := by
    simpa [Key.fill, FixedBytes.fill] using same
  have values := congrArg UInt8.toNat bytes
  rw [UInt8.toNat_ofNat', UInt8.toNat_ofNat'] at values
  have := List.mem_range.mp inside
  have := List.mem_range.mp among
  omega

/-- 256 keys are asked to sign, and the header asks none: no place has its role, and a transaction
without any signature is taken as complete. -/
theorem header_of_256_signers :
    ∃ message, compile [gathering uniformKeys (Key.fill 0)] (Key.fill 0) (FixedBytes.fill 32 42) =
        .ok message ∧
      ¬ message.HeaderTells [gathering uniformKeys (Key.fill 0)] (Key.fill 0) ∧
      ¬ (∀ key, key ∈ message.signerKeys ↔
        MustSign [gathering uniformKeys (Key.fill 0)] (Key.fill 0) key) ∧
      Transaction.assemble message .empty = .ok ⟨[], message⟩ := by
  have payer : Key.fill 0 ∈ uniformKeys := List.mem_map.mpr ⟨0, by simp, rfl⟩
  have length : uniformKeys.length = 256 := by simp [uniformKeys]
  obtain ⟨message, compiled, full⟩ :=
    allSign_gathering nodup_uniformKeys length payer (FixedBytes.fill 32 42)
  have inexact := not_mustSign_iff_of_allSign compiled full
  exact ⟨message, compiled, fun tells => inexact (mem_signerKeys_iff_mustSign compiled tells),
    inexact, assemble_of_allSign compiled full _⟩

end BridgeClient.Message
