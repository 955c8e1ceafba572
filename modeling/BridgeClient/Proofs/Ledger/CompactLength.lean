import BridgeClient.Ledger.CompactLength
import BridgeClient.Number.Radix

set_option autoImplicit false

/-!
Compact lengths: how many bytes one takes, when the check lets it through, which groups a number is
written in and which are read, and that reading gives back what was written, whatever follows.
-/
namespace BridgeClient.CompactLength

theorem groups_of_lt {n : Nat} (small : n < 128) : groups n = [UInt8.ofNat n] := by
  rw [groups, if_pos small]

theorem groups_of_le {n : Nat} (large : 128 ≤ n) :
    groups n = UInt8.ofNat (n % 128 + 128) :: groups (n / 128) := by
  rw [groups, if_neg (Nat.not_lt.mpr large)]

theorem groups_ne_nil (n : Nat) : groups n ≠ [] := by
  rw [groups]
  split <;> exact List.cons_ne_nil _ _

theorem length_groups {n : Nat} (bound : n < 65536) : (groups n).length = size n := by
  unfold size
  by_cases one : n < 128
  · simp [groups_of_lt one, one]
  · rw [groups_of_le (by omega), if_neg one, List.length_cons]
    by_cases two : n < 16384
    · rw [groups_of_lt (by omega), if_pos two]
      rfl
    · rw [groups_of_le (by omega), groups_of_lt (by omega), if_neg two]
      rfl

theorem size_mono {m n : Nat} (le : m ≤ n) : size m ≤ size n := by
  unfold size
  repeat' split
  all_goals omega

theorem size_le_three (n : Nat) : size n ≤ 3 := by
  unfold size
  repeat' split
  all_goals omega

theorem encodeChecked_of_lt {n : Nat} (bound : n < 65536) : encodeChecked n = .ok (groups n) := by
  have value : (UInt16.ofNat n).toNat = n := UInt16.toNat_ofNat_of_lt' bound
  simp only [encodeChecked, check, bound, ↓reduceIte, Except.map, encode, value]

theorem encodeChecked_of_le {n : Nat} (beyond : 65536 ≤ n) :
    encodeChecked n = .error (.serialization s!"length {n} exceeds compact-u16") := by
  simp only [encodeChecked, check, Nat.not_lt.mpr beyond, ↓reduceIte, Except.map]

theorem encodeChecked_eq_ok_iff {n : Nat} {bytes : Bytes} :
    encodeChecked n = .ok bytes ↔ n < 65536 ∧ bytes = groups n := by
  by_cases bound : n < 65536
  · rw [encodeChecked_of_lt bound]
    constructor
    · intro whole
      cases whole
      exact ⟨bound, rfl⟩
    · intro parts
      obtain ⟨_, rfl⟩ := parts
      rfl
  · rw [encodeChecked_of_le (by omega)]
    constructor
    · intro whole
      cases whole
    · intro parts
      obtain ⟨inside, _⟩ := parts
      exact absurd inside bound

/-! ## Groups and the number they make -/

/-- All groups say that another one follows. -/
def Continued (front : Bytes) : Prop := ∀ b ∈ front, 128 ≤ b.toNat

/-- The number that groups make, whatever their high bits say. -/
def number (form : Bytes) : Nat := Radix.ofDigits 128 (form.map fun b => b.toNat % 128)

@[simp] theorem number_nil : number [] = 0 := rfl

@[simp] theorem number_cons (b : UInt8) (form : Bytes) :
    number (b :: form) = b.toNat % 128 + 128 * number form := rfl

theorem number_singleton (last : UInt8) : number [last] = last.toNat % 128 := rfl

theorem number_pos {front : Bytes} {last : UInt8} (closed : last.toNat < 128)
    (nonzero : last ≠ 0) : 0 < number (front ++ [last]) := by
  have value : last.toNat ≠ 0 := fun zero => nonzero (UInt8.toNat_inj.mp zero)
  induction front with
  | nil =>
      rw [List.nil_append, number_singleton]
      omega
  | cons b front ih =>
      rw [List.cons_append, number_cons]
      omega

/-- A number is written in the groups that make it: all but the last are marked, and the last is no
zero unless it is the only one. -/
theorem groups_eq_append_iff {n : Nat} {front : Bytes} {last : UInt8} :
    groups n = front ++ [last] ↔ Continued front ∧ number (front ++ [last]) = n ∧
      last.toNat < 128 ∧ (front = [] ∨ last ≠ 0) := by
  induction front generalizing n with
  | nil =>
      rw [List.nil_append, number_singleton]
      constructor
      · intro written
        by_cases small : n < 128
        · rw [groups_of_lt small, List.singleton_inj] at written
          have value : last.toNat = n := by
            rw [← written, UInt8.toNat_ofNat']
            omega
          exact ⟨List.forall_mem_nil _, by omega, by omega, Or.inl rfl⟩
        · rw [groups_of_le (by omega), List.cons.injEq] at written
          exact absurd written.2 (groups_ne_nil _)
      · intro parts
        obtain ⟨_, value, closed, _⟩ := parts
        have same : n = last.toNat := by omega
        rw [same, groups_of_lt closed, UInt8.ofNat_toNat]
  | cons b front ih =>
      have byte := b.toNat_lt
      rw [List.cons_append, number_cons]
      constructor
      · intro written
        by_cases small : n < 128
        · rw [groups_of_lt small, List.cons.injEq] at written
          exact absurd written.2.symm (List.append_ne_nil_of_right_ne_nil _ (List.cons_ne_nil _ _))
        · rw [groups_of_le (by omega), List.cons.injEq] at written
          obtain ⟨continued, value, closed, least⟩ := ih.mp written.2
          have marked : b.toNat = n % 128 + 128 := by
            rw [← written.1, UInt8.toNat_ofNat']
            omega
          -- A single zero behind the first group would make `n / 128` zero.
          have nonzero : last ≠ 0 := by
            rintro rfl
            have alone : front = [] := least.resolve_right (fun other => other rfl)
            rw [alone, List.nil_append, number_singleton] at value
            have zero : (0 : UInt8).toNat = 0 := rfl
            omega
          exact ⟨List.forall_mem_cons.mpr ⟨by omega, continued⟩, by omega, closed, Or.inr nonzero⟩
      · intro parts
        obtain ⟨continued, value, closed, least⟩ := parts
        obtain ⟨marked, continued⟩ := List.forall_mem_cons.mp continued
        have nonzero : last ≠ 0 := least.resolve_left (List.cons_ne_nil _ _)
        have positive : 0 < number (front ++ [last]) := number_pos closed nonzero
        have first : UInt8.ofNat (n % 128 + 128) = b := by
          apply UInt8.toNat_inj.mp
          rw [UInt8.toNat_ofNat']
          omega
        have behind : groups (n / 128) = front ++ [last] :=
          ih.mpr ⟨continued, by omega, closed, Or.inr nonzero⟩
        rw [groups_of_le (by omega), first, behind]

/-! ## Reading -/

/-- A byte string begins with a number that is read: at most `limit` groups, all but the last
marked, and the last one not marked unless no more may be read. -/
structure Begins (limit : Nat) (bytes front : Bytes) (last : UInt8) : Prop where
  groups : front ++ [last] <+: bytes
  continued : Continued front
  within : front.length < limit
  ended : last.toNat < 128 ∨ front.length + 1 = limit

namespace Begins

variable {limit : Nat} {bytes front rest : Bytes} {b c last : UInt8}

theorem not_nil : ¬ Begins limit [] front last := by
  intro begins
  have empty := List.prefix_nil.mp begins.groups
  exact List.append_ne_nil_of_right_ne_nil _ (List.cons_ne_nil _ _) empty

theorem nil_iff :
    Begins (limit + 1) (b :: rest) [] last ↔ last = b ∧ (b.toNat < 128 ∨ limit = 0) := by
  constructor
  · intro begins
    have same : last = b := (List.cons_prefix_cons.mp begins.groups).1
    have ended := begins.ended
    rw [same, List.length_nil] at ended
    exact ⟨same, by omega⟩
  · intro parts
    obtain ⟨rfl, ended⟩ := parts
    refine ⟨List.cons_prefix_cons.mpr ⟨rfl, List.nil_prefix⟩, List.forall_mem_nil _,
      Nat.succ_pos limit, ?_⟩
    rw [List.length_nil]
    omega

theorem cons_iff : Begins (limit + 1) (b :: rest) (c :: front) last ↔
    c = b ∧ 128 ≤ b.toNat ∧ Begins limit rest front last := by
  constructor
  · intro begins
    obtain ⟨rfl, behind⟩ := List.cons_prefix_cons.mp begins.groups
    obtain ⟨marked, continued⟩ := List.forall_mem_cons.mp begins.continued
    have within := begins.within
    have ended := begins.ended
    rw [List.length_cons] at within ended
    exact ⟨rfl, marked, behind, continued, by omega, by omega⟩
  · intro parts
    obtain ⟨rfl, marked, begins⟩ := parts
    have within := begins.within
    have ended := begins.ended
    refine ⟨List.cons_prefix_cons.mpr ⟨rfl, begins.groups⟩,
      List.forall_mem_cons.mpr ⟨marked, begins.continued⟩, ?_, ?_⟩
    · rw [List.length_cons]
      omega
    · rw [List.length_cons]
      omega

theorem length_le (begins : Begins limit bytes front last) : front.length + 1 ≤ bytes.length := by
  have shorter := begins.groups.length_le
  rwa [List.length_append, List.length_singleton] at shorter

theorem take_eq (begins : Begins limit bytes front last) :
    bytes.take (front.length + 1) = front ++ [last] := by
  have whole := List.prefix_iff_eq_take.mp begins.groups
  rw [List.length_append, List.length_singleton] at whole
  exact whole.symm

end Begins

theorem scan_cons_of_ends {limit : Nat} {b : UInt8} {rest : Bytes}
    (ends : b.toNat < 128 ∨ limit = 0) :
    scan (limit + 1) (b :: rest) = some (b.toNat % 128, 1) := by
  simp [scan, ends]

theorem scan_cons_of_passes {limit : Nat} {b : UInt8} {rest : Bytes}
    (passes : ¬ (b.toNat < 128 ∨ limit = 0)) :
    scan (limit + 1) (b :: rest) =
      (scan limit rest).map fun read => (b.toNat % 128 + 128 * read.1, read.2 + 1) := by
  simp [scan, passes]

/-- What is scanned is the number in front. -/
theorem scan_eq_some_iff {limit value used : Nat} {bytes : Bytes} :
    scan limit bytes = some (value, used) ↔ ∃ front last, Begins limit bytes front last ∧
      number (front ++ [last]) = value ∧ front.length + 1 = used := by
  -- Over the groups that may still be read: each step takes the first byte off string and number.
  induction limit generalizing bytes value used with
  | zero =>
      have nothing : scan 0 bytes = none := by cases bytes <;> rfl
      rw [nothing]
      refine iff_of_false (by simp) ?_
      rintro ⟨front, last, begins, -⟩
      exact Nat.not_lt_zero _ begins.within
  | succ limit ih =>
      cases bytes with
      | nil =>
          rw [scan]
          refine iff_of_false (by simp) ?_
          rintro ⟨front, last, begins, -⟩
          exact Begins.not_nil begins
      | cons b rest =>
          by_cases ends : b.toNat < 128 ∨ limit = 0
          · rw [scan_cons_of_ends ends, Option.some.injEq, Prod.mk.injEq]
            constructor
            · intro same
              exact ⟨[], b, Begins.nil_iff.mpr ⟨rfl, ends⟩, same.1, same.2⟩
            · rintro ⟨front, last, begins, made, length⟩
              cases front with
              | nil =>
                  obtain ⟨rfl, _⟩ := Begins.nil_iff.mp begins
                  exact ⟨made, length⟩
              | cons c front =>
                  obtain ⟨_, marked, behind⟩ := Begins.cons_iff.mp begins
                  have within := behind.within
                  omega
          · rw [scan_cons_of_passes ends, Option.map_eq_some_iff]
            constructor
            · rintro ⟨⟨others, behind⟩, found, same⟩
              obtain ⟨front, last, begins, rfl, rfl⟩ := ih.mp found
              cases same
              exact ⟨b :: front, last, Begins.cons_iff.mpr ⟨rfl, by omega, begins⟩, rfl, rfl⟩
            · rintro ⟨front, last, begins, rfl, rfl⟩
              cases front with
              | nil => exact absurd (Begins.nil_iff.mp begins).2 ends
              | cons c front =>
                  obtain ⟨rfl, _, behind⟩ := Begins.cons_iff.mp begins
                  exact ⟨_, ih.mpr ⟨front, last, behind, rfl, rfl⟩, rfl⟩

/-- The number in front is read if it fits sixteen bits. -/
theorem decode_eq_ok_iff {bytes : Bytes} {length : UInt16} {used : Nat} :
    decode bytes = .ok (length, used) ↔ ∃ front last, Begins 3 bytes front last ∧
      number (front ++ [last]) = length.toNat ∧ front.length + 1 = used := by
  rw [← scan_eq_some_iff, decode]
  cases found : scan 3 bytes with
  | none => simp
  | some read =>
      obtain ⟨value, taken⟩ := read
      dsimp only
      rw [Option.some.injEq, Prod.mk.injEq]
      by_cases fits : value < 65536
      · have whole : (UInt16.ofNat value).toNat = value := UInt16.toNat_ofNat_of_lt' fits
        rw [if_pos fits, Except.ok.injEq, Prod.mk.injEq, ← UInt16.toNat_inj, whole]
      · have small := length.toNat_lt
        rw [if_neg fits]
        refine iff_of_false (by simp) ?_
        intro same
        omega

theorem decode_groups_append {n : Nat} (bound : n < 65536) (rest : Bytes) :
    decode (groups n ++ rest) = .ok (UInt16.ofNat n, (groups n).length) := by
  obtain ⟨front, last, written⟩ : ∃ front last, groups n = front ++ [last] :=
    ⟨_, _, (List.dropLast_concat_getLast (groups_ne_nil n)).symm⟩
  obtain ⟨continued, made, closed, _⟩ := groups_eq_append_iff.mp written
  have length : front.length + 1 = (groups n).length := by
    rw [written, List.length_append, List.length_singleton]
  have few : (groups n).length ≤ 3 := by
    rw [length_groups bound]
    exact size_le_three n
  have value : (UInt16.ofNat n).toNat = n := UInt16.toNat_ofNat_of_lt' bound
  have begins : Begins 3 (groups n ++ rest) front last := by
    refine ⟨?_, continued, by omega, Or.inl closed⟩
    rw [← written]
    exact List.prefix_append _ _
  exact decode_eq_ok_iff.mpr ⟨front, last, begins, made.trans value.symm, length⟩

end BridgeClient.CompactLength
