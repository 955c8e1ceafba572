import BridgeClient.Proofs.Ledger.CompactLength

set_option autoImplicit false

/-!
Which byte strings are read as compact lengths. Every written length is, whatever follows it. Two
kinds of groups that nobody writes are as well: those with a zero behind the groups that make the
number, and those of which the third says that a fourth one follows. No others are.
-/
namespace BridgeClient.CompactLength

/-- One or two marked groups with a zero behind them. -/
def Padded (bytes : Bytes) : Prop :=
  ∃ front, front ≠ [] ∧ front.length < 3 ∧ Continued front ∧ front ++ [0] <+: bytes

/-- Three marked groups, of which the third is small enough for sixteen bits. -/
def RunsOn (bytes : Bytes) : Prop :=
  ∃ front last, front.length = 2 ∧ Continued front ∧ front ++ [last] <+: bytes ∧
    128 ≤ last.toNat ∧ last.toNat < 132

variable {bytes front : Bytes} {last : UInt8} {length : UInt16}

theorem decode_encode_append (length : UInt16) (rest : Bytes) :
    decode (encode length ++ rest) = .ok (length, (encode length).length) := by
  have read := decode_groups_append length.toNat_lt rest
  rwa [UInt16.ofNat_toNat] at read

theorem number_concat_zero (front : Bytes) : number (front ++ [0]) = number front := by
  induction front with
  | nil => rfl
  | cons b front ih => rw [List.cons_append, number_cons, number_cons, ih]

theorem number_lt_of_length_le_two (few : front.length ≤ 2) : number front < 65536 := by
  match front with
  | [] => decide
  | [a] =>
      rw [number_singleton]
      omega
  | [a, b] =>
      rw [number_cons, number_singleton]
      omega

theorem number_concat_lt_iff (two : front.length = 2) :
    number (front ++ [last]) < 65536 ↔ last.toNat % 128 < 4 := by
  match front with
  | [a, b] =>
      simp only [List.cons_append, List.nil_append, number_cons, number_nil]
      omega

namespace Begins

theorem runsOn (begins : Begins 3 bytes front last) (fits : number (front ++ [last]) < 65536)
    (marked : 128 ≤ last.toNat) : RunsOn bytes := by
  have two : front.length = 2 := by
    have ended := begins.ended
    omega
  have byte := last.toNat_lt
  have small := (number_concat_lt_iff two).mp fits
  exact ⟨front, last, two, begins.continued, begins.groups, marked, by omega⟩

theorem encode_eq_iff {limit : Nat} (begins : Begins limit bytes front last)
    (made : number (front ++ [last]) = length.toNat) :
    encode length = front ++ [last] ↔ last.toNat < 128 ∧ (front = [] ∨ last ≠ 0) := by
  rw [encode, groups_eq_append_iff]
  exact ⟨fun parts => parts.2.2, fun proper => ⟨begins.continued, made, proper⟩⟩

end Begins

/-- The number in front is read, and does not end as written ones do. -/
theorem exists_improper (stray : Padded bytes ∨ RunsOn bytes) :
    ∃ front last, Begins 3 bytes front last ∧ number (front ++ [last]) < 65536 ∧
      ¬ (last.toNat < 128 ∧ (front = [] ∨ last ≠ 0)) := by
  cases stray with
  | inl padded =>
      obtain ⟨front, more, few, continued, groups⟩ := padded
      have closed : (0 : UInt8).toNat < 128 := by decide
      have fits : number (front ++ [0]) < 65536 := by
        rw [number_concat_zero]
        exact number_lt_of_length_le_two (Nat.le_of_lt_succ few)
      refine ⟨front, 0, ⟨groups, continued, few, Or.inl closed⟩, fits, ?_⟩
      intro proper
      exact proper.2.elim more fun nonzero => nonzero rfl
  | inr runs =>
      obtain ⟨front, last, two, continued, groups, marked, small⟩ := runs
      have fits : number (front ++ [last]) < 65536 := (number_concat_lt_iff two).mpr (by omega)
      refine ⟨front, last, ⟨groups, continued, by omega, Or.inr (by omega)⟩, fits, ?_⟩
      intro proper
      exact Nat.not_lt.mpr marked proper.1

/-- What is padded or runs on is read all the same, as a length that is written in another way. -/
theorem exists_misread (stray : Padded bytes ∨ RunsOn bytes) :
    ∃ length used, decode bytes = .ok (length, used) ∧ bytes.take used ≠ encode length := by
  obtain ⟨front, last, begins, fits, improper⟩ := exists_improper stray
  have made : number (front ++ [last]) = (UInt16.ofNat (number (front ++ [last]))).toNat :=
    (UInt16.toNat_ofNat_of_lt' fits).symm
  refine ⟨_, _, decode_eq_ok_iff.mpr ⟨front, last, begins, made, rfl⟩, ?_⟩
  rw [begins.take_eq]
  intro same
  exact improper ((begins.encode_eq_iff made).mp same.symm)

/-- What is read of a string of neither kind is what is written in front of it. -/
theorem decode_eq_ok_iff_of_proper {used : Nat} (unpadded : ¬ Padded bytes)
    (ended : ¬ RunsOn bytes) : decode bytes = .ok (length, used) ↔
      used ≤ bytes.length ∧ bytes.take used = encode length := by
  constructor
  · intro read
    obtain ⟨front, last, begins, made, rfl⟩ := decode_eq_ok_iff.mp read
    have closed : last.toNat < 128 := by
      apply Nat.lt_of_not_le
      intro marked
      have fits := length.toNat_lt
      exact ended (begins.runsOn (by omega) marked)
    have least : front = [] ∨ last ≠ 0 := by
      by_cases alone : front = []
      · exact Or.inl alone
      · refine Or.inr ?_
        rintro rfl
        exact unpadded ⟨front, alone, begins.within, begins.continued, begins.groups⟩
    refine ⟨begins.length_le, ?_⟩
    rw [begins.take_eq]
    exact ((begins.encode_eq_iff made).mpr ⟨closed, least⟩).symm
  · intro parts
    obtain ⟨enough, written⟩ := parts
    have read := decode_encode_append length (bytes.drop used)
    rwa [← written, List.take_append_drop, List.length_take, Nat.min_eq_left enough] at read

/-- A string is read as what is written in front of it, and only as that, unless it is padded or
runs on. So every written length is read back, whatever follows, and a string of neither kind that
is read as a whole is what the length is written as. -/
theorem decode_canonical_iff (bytes : Bytes) :
    ((∀ (length : UInt16) (used : Nat), decode bytes = .ok (length, used) ↔
        used ≤ bytes.length ∧ bytes.take used = encode length) ↔
      ¬ Padded bytes ∧ ¬ RunsOn bytes) ∧
    (∀ (length : UInt16) (rest : Bytes),
      decode (encode length ++ rest) = .ok (length, (encode length).length)) ∧
    ∀ length : UInt16, ¬ Padded bytes → ¬ RunsOn bytes →
      decode bytes = .ok (length, bytes.length) → bytes = encode length := by
  refine ⟨⟨?_, ?_⟩, decode_encode_append, ?_⟩
  · intro faithful
    rw [← not_or]
    intro stray
    obtain ⟨length, used, read, unwritten⟩ := exists_misread stray
    exact unwritten ((faithful length used).mp read).2
  · intro proper length used
    exact decode_eq_ok_iff_of_proper proper.1 proper.2
  · intro length unpadded ended read
    have written := ((decode_eq_ok_iff_of_proper unpadded ended).mp read).2
    rwa [List.take_length] at written

/-- The largest length, alone and with another byte behind it. -/
theorem decode_canonical_iff_largest :
    let form : Bytes := [0xff, 0xff, 3]
    ¬ Padded form ∧ ¬ RunsOn form ∧ decode form = .ok (65535, 3) ∧ form = encode 65535 ∧
      decode (form ++ [7]) = .ok (65535, 3) ∧
      ∀ (length : UInt16) (used : Nat), decode form = .ok (length, used) ↔
        used ≤ form.length ∧ form.take used = encode length := by
  intro form
  have unpadded : ¬ Padded form := by
    rintro ⟨front, more, few, -, groups⟩
    match front with
    | [] => exact more rfl
    | [a] =>
        simp only [List.cons_append, List.nil_append, form, List.cons_prefix_cons] at groups
        exact absurd groups.2.1 (by decide)
    | [a, b] =>
        simp only [List.cons_append, List.nil_append, form, List.cons_prefix_cons] at groups
        exact absurd groups.2.2.1 (by decide)
  have ended : ¬ RunsOn form := by
    rintro ⟨front, last, two, -, groups, marked, -⟩
    match front with
    | [a, b] =>
        simp only [List.cons_append, List.nil_append, form, List.cons_prefix_cons] at groups
        rw [groups.2.2.1] at marked
        exact absurd marked (by decide)
  obtain ⟨faithful, followed, alone⟩ := decode_canonical_iff form
  have written : form = encode 65535 := alone 65535 unpadded ended rfl
  have read := followed 65535 [7]
  rw [← written] at read
  exact ⟨unpadded, ended, rfl, written, read, faithful.mpr ⟨unpadded, ended⟩⟩

/-- A third group that says that a fourth one follows, and a zero group behind the one that makes
the number. -/
theorem unwritten_lengths_read :
    decode [0xff, 0xff, 0x83] = .ok (65535, 3) ∧ encode 65535 = [0xff, 0xff, 3] ∧
      decode [0x80, 0] = .ok (0, 2) ∧ encode 0 = [0] ∧
      ¬ ∀ (bytes : Bytes) (length : UInt16) (used : Nat), decode bytes = .ok (length, used) ↔
        used ≤ bytes.length ∧ bytes.take used = encode length := by
  have largest : encode 65535 = [0xff, 0xff, 3] := by cbv
  have least : encode 0 = [0] := by cbv
  refine ⟨rfl, largest, rfl, least, ?_⟩
  intro faithful
  have written := ((faithful [0xff, 0xff, 0x83] 65535 3).mp rfl).2
  rw [largest] at written
  exact absurd written (by decide)

end BridgeClient.CompactLength
