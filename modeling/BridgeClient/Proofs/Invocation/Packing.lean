import BridgeClient.Proofs.Invocation.Uniform

set_option autoImplicit false

/-!
Greedy packing against all ways of cutting a list into groups that fit. Packing succeeds when every
instruction fits alone, its batches are such a cut, and no cut has fewer groups: whatever a
competitor has started with, its group at hand began no later than the batch at hand.
-/
namespace BridgeClient.Packing

open Sequencing

/-- The group is measured, and a transaction of it is too large. -/
def Overflows (measured : List Instruction → Except BridgeError Nat) (group : List Instruction) :
    Prop :=
  ∃ size, measured group = .ok size ∧ Transaction.maxSize < size

/-- The error of an instruction that does not fit alone. -/
def Refused (measured : List Instruction → Except BridgeError Nat) (instruction : Instruction)
    (reason : BridgeError) : Prop :=
  measured [instruction] = .error reason ∨ ∃ size, measured [instruction] = .ok size ∧
    Transaction.maxSize < size ∧ reason = .transactionTooLarge size Transaction.maxSize

/-- Consecutive groups, none empty, that make up a list and all fit. -/
structure IsCut (measured : List Instruction → Except BridgeError Nat)
    (instructions : List Instruction) (groups : List (List Instruction)) : Prop where
  joined : groups.flatten = instructions
  nonempty : ∀ group ∈ groups, group ≠ []
  fits : ∀ group ∈ groups, Fits measured group

section Steps

variable {measured : List Instruction → Except BridgeError Nat} {taken rest : List Instruction}
  {next : Instruction}

/-- A packed instruction joins those taken, or starts a batch behind them. -/
theorem packFrom_cons_ok {batches : List (List Instruction)}
    (packed : packFrom measured taken (next :: rest) = .ok batches) :
    (Fits measured (taken ++ [next]) ∧ packFrom measured (taken ++ [next]) rest = .ok batches) ∨
      (taken ≠ [] ∧ Overflows measured (taken ++ [next]) ∧ Fits measured [next] ∧
        ∃ later, packFrom measured [next] rest = .ok later ∧ batches = taken :: later) := by
  cases taken with
  | nil =>
      simp only [packFrom, bind_eq_ok_iff] at packed
      obtain ⟨size, sized, packed⟩ := packed
      split at packed
      · exact Or.inl ⟨⟨size, sized, ‹_›⟩, packed⟩
      · cases packed
  | cons first others =>
      simp only [packFrom, bind_eq_ok_iff] at packed
      obtain ⟨size, sized, packed⟩ := packed
      split at packed
      · exact Or.inl ⟨⟨size, sized, ‹_›⟩, packed⟩
      · rename_i large
        obtain ⟨alone, aloneSized, packed⟩ := bind_eq_ok_iff.mp packed
        split at packed
        · rename_i small
          obtain ⟨later, onward, whole⟩ := bind_eq_ok_iff.mp packed
          cases whole
          exact Or.inr ⟨by simp, ⟨size, sized, Nat.not_le.mp large⟩, ⟨alone, aloneSized, small⟩,
            later, onward, rfl⟩
        · cases packed

/-- An error arises here, or in what follows. -/
theorem packFrom_cons_error {reason : BridgeError}
    (failed : packFrom measured taken (next :: rest) = .error reason) :
    measured (taken ++ [next]) = .error reason ∨
      (Fits measured (taken ++ [next]) ∧
        packFrom measured (taken ++ [next]) rest = .error reason) ∨
      Refused measured next reason ∨
      (Fits measured [next] ∧ packFrom measured [next] rest = .error reason) := by
  cases taken with
  | nil =>
      simp only [packFrom] at failed
      rcases bind_eq_error_iff.mp failed with failed | ⟨size, sized, failed⟩
      · exact Or.inl failed
      · split at failed
        · exact Or.inr (Or.inl ⟨⟨size, sized, ‹_›⟩, failed⟩)
        · rename_i large
          cases failed
          exact Or.inr (Or.inr (Or.inl (Or.inr ⟨size, sized, Nat.not_le.mp large, rfl⟩)))
  | cons first others =>
      simp only [packFrom] at failed
      rcases bind_eq_error_iff.mp failed with failed | ⟨size, sized, failed⟩
      · exact Or.inl failed
      · split at failed
        · exact Or.inr (Or.inl ⟨⟨size, sized, ‹_›⟩, failed⟩)
        · rcases bind_eq_error_iff.mp failed with failed | ⟨alone, aloneSized, failed⟩
          · exact Or.inr (Or.inr (Or.inl (Or.inl failed)))
          · split at failed
            · rcases bind_eq_error_iff.mp failed with failed | ⟨later, _, failed⟩
              · exact Or.inr (Or.inr (Or.inr ⟨⟨alone, aloneSized, ‹_›⟩, failed⟩))
              · cases failed
            · rename_i large
              cases failed
              exact Or.inr (Or.inr (Or.inl (Or.inr ⟨alone, aloneSized, Nat.not_le.mp large, rfl⟩)))

/-- The batches make up what was taken and what was to be packed. -/
theorem packFrom_isCut {batches : List (List Instruction)}
    (start : taken ≠ [] → Fits measured taken)
    (packed : packFrom measured taken rest = .ok batches) :
    IsCut measured (taken ++ rest) batches := by
  induction rest generalizing taken batches with
  | nil =>
      cases taken with
      | nil =>
          cases packed
          exact ⟨rfl, by simp, by simp⟩
      | cons first others =>
          cases packed
          exact ⟨by simp, by simp, by simpa using start (by simp)⟩
  | cons next rest ih =>
      rcases packFrom_cons_ok packed with ⟨fits, onward⟩ | ⟨nonempty, _, alone, later, onward, rfl⟩
      · have cut := ih (fun _ => fits) onward
        rwa [List.append_assoc, List.singleton_append] at cut
      · have cut := ih (fun _ => alone) onward
        refine ⟨?_, ?_, ?_⟩
        · rw [List.flatten_cons, cut.joined, List.singleton_append]
        · exact List.forall_mem_cons.mpr ⟨nonempty, cut.nonempty⟩
        · exact List.forall_mem_cons.mpr ⟨start nonempty, cut.fits⟩

/-- The first group of a cut reaches past an instruction, or leaves it to the other groups. -/
theorem IsCut.covers_or_tail {front group : List Instruction} {groups : List (List Instruction)}
    (cut : IsCut measured (front ++ next :: rest) (group :: groups)) :
    (∃ after, group = front ++ next :: after) ∨
      ∃ ahead, front = group ++ ahead ∧ IsCut measured (ahead ++ next :: rest) groups := by
  have nonempty := (List.forall_mem_cons.mp cut.nonempty).2
  have fits := (List.forall_mem_cons.mp cut.fits).2
  have joined := cut.joined
  rw [List.flatten_cons] at joined
  rcases List.append_eq_append_iff.mp joined with
    ⟨ahead, within, others⟩ | ⟨overhang, beyond, others⟩
  · exact Or.inr ⟨ahead, within, others, nonempty, fits⟩
  · cases overhang with
    | nil => exact Or.inr ⟨[], by simpa using beyond.symm, others.symm, nonempty, fits⟩
    | cons first after =>
        cases others
        exact Or.inl ⟨after, beyond⟩

end Steps

section Greedy

variable {program feePayer : Key} {accounts : List AccountMeta} {blockhash : Blockhash}
  {rest : List Instruction}

theorem IsCut.uniform {measured : List Instruction → Except BridgeError Nat}
    {instructions group : List Instruction} {groups : List (List Instruction)}
    (cut : IsCut measured instructions groups) (uniform : Uniform program accounts instructions)
    (among : group ∈ groups) : Uniform program accounts group := by
  apply uniform.of_subset
  intro instruction inside
  rw [← cut.joined]
  exact List.mem_flatten.mpr ⟨group, among, inside⟩

/-- No cut of the list has fewer groups, even if its group at hand began before the batch did. -/
theorem packFrom_least {earlier taken : List Instruction} {batches groups : List (List Instruction)}
    (uniform : Uniform program accounts (earlier ++ taken ++ rest))
    (packed : packFrom (measure feePayer blockhash) taken rest = .ok batches)
    (cut : IsCut (measure feePayer blockhash) (earlier ++ taken ++ rest) groups) :
    batches.length ≤ groups.length := by
  induction rest generalizing earlier taken batches groups with
  | nil =>
      cases taken with
      | nil =>
          cases packed
          exact Nat.zero_le _
      | cons first others =>
          cases packed
          cases groups with
          | nil =>
              have joined := cut.joined
              simp at joined
          | cons group groups => simp
  | cons next rest ih =>
      rcases packFrom_cons_ok packed with
        ⟨_, onward⟩ | ⟨nonempty, ⟨size, sized, large⟩, _, later, onward, rfl⟩
      · rw [show earlier ++ taken ++ next :: rest = earlier ++ (taken ++ [next]) ++ rest by simp]
          at uniform cut
        exact ih uniform onward cut
      · cases groups with
        | nil =>
            have joined := cut.joined
            simp at joined
        | cons group groups =>
            rcases cut.covers_or_tail with ⟨after, rfl⟩ | ⟨ahead, split, tail⟩
            · -- A group that reaches past the instruction holds a part that does not fit.
              have reached := cut.uniform uniform (List.mem_cons_self ..)
              have whole := cut.fits _ (List.mem_cons_self ..)
              rw [show earlier ++ taken ++ next :: after = earlier ++ (taken ++ [next]) ++ after by
                simp] at reached whole
              obtain ⟨part, partSized, small⟩ := fits_of_part reached (by simp) whole
              rw [sized] at partSized
              cases partSized
              omega
            · have remaining : Uniform program accounts (ahead ++ [next] ++ rest) := by
                rw [split, List.append_assoc] at uniform
                simpa using (uniform_append.mp uniform).2
              have shorter := ih remaining onward (by simpa using tail)
              simp only [List.length_cons]
              omega

/-- The first instruction that does not fit alone is the one refused. -/
theorem packFrom_refused {taken : List Instruction} {reason : BridgeError}
    (uniform : Uniform program accounts (taken ++ rest))
    (start : taken ≠ [] → Fits (measure feePayer blockhash) taken)
    (failed : packFrom (measure feePayer blockhash) taken rest = .error reason) :
    ∃ before instruction after, rest = before ++ instruction :: after ∧
      (∀ other ∈ before, Fits (measure feePayer blockhash) [other]) ∧
      Refused (measure feePayer blockhash) instruction reason := by
  induction rest generalizing taken with
  | nil => cases taken <;> cases failed
  | cons next rest ih =>
      have behind : Uniform program accounts (taken ++ [next] ++ rest) := by simpa using uniform
      rcases packFrom_cons_error failed with refused | ⟨fits, onward⟩ | refused | ⟨fits, onward⟩
      · refine ⟨[], next, rest, rfl, by simp, Or.inl ?_⟩
        by_cases nonempty : taken = []
        · subst nonempty
          exact refused
        · exact measure_append_error (uniform_append.mp behind).1 nonempty (start nonempty) refused
      · obtain ⟨before, instruction, after, rfl, passing, refused⟩ :=
          ih behind (fun _ => fits) onward
        refine ⟨next :: before, instruction, after, rfl, ?_, refused⟩
        have front : Uniform program accounts (taken ++ [next] ++ []) := by
          simpa using (uniform_append.mp behind).1
        have alone := fits_of_part front (by simp) (by simpa using fits)
        exact List.forall_mem_cons.mpr ⟨alone, passing⟩
      · exact ⟨[], next, rest, rfl, by simp, refused⟩
      · have last : Uniform program accounts ([next] ++ rest) := by
          rw [List.append_assoc] at behind
          exact (uniform_append.mp behind).2
        obtain ⟨before, instruction, after, rfl, passing, refused⟩ := ih last (fun _ => fits) onward
        exact ⟨next :: before, instruction, after, rfl,
          List.forall_mem_cons.mpr ⟨fits, passing⟩, refused⟩

end Greedy

section Pack

variable {program feePayer : Key} {accounts : List AccountMeta} {blockhash : Blockhash}
  {instructions : List Instruction}

theorem pack_isCut {batches : List (List Instruction)}
    (packed : pack instructions feePayer blockhash = .ok batches) :
    IsCut (measure feePayer blockhash) instructions batches :=
  packFrom_isCut (fun nonempty => absurd rfl nonempty) packed

theorem pack_refused {reason : BridgeError} (uniform : Uniform program accounts instructions)
    (failed : pack instructions feePayer blockhash = .error reason) :
    ∃ before instruction after, instructions = before ++ instruction :: after ∧
      (∀ other ∈ before, Fits (measure feePayer blockhash) [other]) ∧
      Refused (measure feePayer blockhash) instruction reason := by
  have behind : Uniform program accounts ([] ++ instructions) := uniform
  exact packFrom_refused behind (fun nonempty => absurd rfl nonempty) failed

theorem pack_least {batches groups : List (List Instruction)}
    (uniform : Uniform program accounts instructions)
    (packed : pack instructions feePayer blockhash = .ok batches)
    (cut : IsCut (measure feePayer blockhash) instructions groups) :
    batches.length ≤ groups.length := by
  have behind : Uniform program accounts ([] ++ [] ++ instructions) := uniform
  exact packFrom_least behind packed cut

theorem not_fits_of_refused {measured : List Instruction → Except BridgeError Nat}
    {instruction : Instruction} {reason : BridgeError}
    (refused : Refused measured instruction reason) : ¬ Fits measured [instruction] := by
  intro fits
  obtain ⟨size, sized, small⟩ := fits
  rcases refused with failed | ⟨other, otherSized, large, _⟩
  · rw [sized] at failed
    cases failed
  · rw [sized] at otherSized
    cases otherSized
    omega

theorem fits_alone_of_isCut {groups : List (List Instruction)} {instruction : Instruction}
    (uniform : Uniform program accounts instructions)
    (cut : IsCut (measure feePayer blockhash) instructions groups)
    (inside : instruction ∈ instructions) : Fits (measure feePayer blockhash) [instruction] := by
  rw [← cut.joined, List.mem_flatten] at inside
  obtain ⟨group, among, inside⟩ := inside
  obtain ⟨before, after, rfl⟩ := List.append_of_mem inside
  have whole : before ++ instruction :: after = before ++ [instruction] ++ after := by simp
  exact fits_of_part (whole ▸ cut.uniform uniform among) (by simp) (whole ▸ cut.fits _ among)

theorem exists_pack_iff (uniform : Uniform program accounts instructions) :
    (∃ batches, pack instructions feePayer blockhash = .ok batches) ↔
      ∀ instruction ∈ instructions, Fits (measure feePayer blockhash) [instruction] := by
  constructor
  · intro packed instruction inside
    obtain ⟨batches, packed⟩ := packed
    exact fits_alone_of_isCut uniform (pack_isCut packed) inside
  · intro alone
    apply exists_ok_of_forall_ne_error
    intro reason failed
    obtain ⟨before, instruction, after, rfl, _, refused⟩ := pack_refused uniform failed
    exact not_fits_of_refused refused (alone instruction (by simp))

end Pack

/-- Packing succeeds when every instruction fits alone. Its batches are a cut into groups that fit,
none has fewer groups, and the first instruction that does not fit alone is the one refused. -/
theorem pack_least_cut (program : Key) (accounts : List AccountMeta) (payloads : List Bytes)
    (feePayer : Key) (blockhash : Blockhash) :
    let instructions := payloads.map (Instruction.mk program accounts)
    let measured := measure feePayer blockhash
    ((∃ batches, pack instructions feePayer blockhash = .ok batches) ↔
        ∀ instruction ∈ instructions, Fits measured [instruction]) ∧
      (∀ batches, pack instructions feePayer blockhash = .ok batches →
        IsCut measured instructions batches ∧
          ∀ groups, IsCut measured instructions groups → batches.length ≤ groups.length) ∧
      (∀ reason, pack instructions feePayer blockhash = .error reason →
        ∃ before instruction after, instructions = before ++ instruction :: after ∧
          (∀ other ∈ before, Fits measured [other]) ∧ Refused measured instruction reason) := by
  intro instructions measured
  have uniform : Uniform program accounts instructions := uniform_map program accounts payloads
  refine ⟨exists_pack_iff uniform, ?_, ?_⟩
  · intro batches packed
    exact ⟨pack_isCut packed, fun groups cut => pack_least uniform packed cut⟩
  · intro reason failed
    exact pack_refused uniform failed

/-- Three payloads of 300 bytes fit and four do not, so five of them take two transactions. -/
theorem pack_least_cut_five_payloads :
    let instructions := (List.replicate 5 (List.replicate 300 0)).map
      (Instruction.mk (Key.fill 10) [])
    pack instructions (Key.fill 1) (FixedBytes.fill 32 42) =
        .ok [instructions.take 3, instructions.drop 3] ∧
      ∀ groups, IsCut (measure (Key.fill 1) (FixedBytes.fill 32 42)) instructions groups →
        2 ≤ groups.length := by
  intro instructions
  have chosen : (pack instructions (Key.fill 1) (FixedBytes.fill 32 42)).toOption =
      some [instructions.take 3, instructions.drop 3] := by decide +kernel
  have packed : pack instructions (Key.fill 1) (FixedBytes.fill 32 42) =
      .ok [instructions.take 3, instructions.drop 3] := by
    cases run : pack instructions (Key.fill 1) (FixedBytes.fill 32 42) with
    | error reason => simp [run, Except.toOption] at chosen
    | ok batches =>
        rw [run] at chosen
        exact congrArg Except.ok (Option.some.inj chosen)
  have least := (pack_least_cut (Key.fill 10) [] (List.replicate 5 (List.replicate 300 0))
    (Key.fill 1) (FixedBytes.fill 32 42)).2.1 _ packed
  exact ⟨packed, least.2⟩

end BridgeClient.Packing
