import BridgeClient.Proofs.Bytes
import BridgeClient.Text.Base58

set_option autoImplicit false

/-!
Base58 reads what it writes, and nothing else. Both ways bring digits from one base to another and
leave the zeros in front as they are, and the way back undoes the way there.
-/
namespace BridgeClient

namespace Radix

theorem ofDigits_concat_zero (base : Nat) (ds : List Nat) :
    ofDigits base (ds ++ [0]) = ofDigits base ds := by
  induction ds with
  | nil => simp [ofDigits]
  | cons d ds ih => rw [List.cons_append, ofDigits, ofDigits, ih]

theorem getLast?_digits {base : Nat} (wide : 2 ≤ base) (n : Nat) :
    (digits base n).getLast? ≠ some 0 := by
  induction n using Nat.strongRecOn with
  | _ n ih =>
      rcases Nat.eq_zero_or_pos n with rfl | positive
      · simp
      · rw [digits_of_pos wide positive, List.getLast?_cons]
        have above := ih _ (Nat.div_lt_self positive wide)
        cases higher : (digits base (n / base)).getLast? with
        | some d =>
            rw [higher] at above
            exact above
        | none =>
            -- There is one digit, and it is the number itself.
            have quotient : n / base = 0 := by
              rw [← ofDigits_digits wide (n / base), List.getLast?_eq_none_iff.mp higher]
              rfl
            have number := Nat.mod_add_div n base
            rw [quotient, Nat.mul_zero] at number
            intro same
            have zero : n % base = 0 := Option.some.inj same
            omega

/-- Digits, most significant first, brought from one base to another. Zeros in front stay as they
are. -/
def recode (source target : Nat) (ds : List Nat) : List Nat :=
  ds.takeWhile (· = 0) ++ (digits target (ofDigits source ds.reverse)).reverse

variable {source target : Nat}

theorem recode_zero_cons (ds : List Nat) :
    recode source target (0 :: ds) = 0 :: recode source target ds := by
  rw [recode, List.reverse_cons, ofDigits_concat_zero]
  rfl

theorem recode_of_head {ds : List Nat} (leading : ds.head? ≠ some 0) :
    recode source target ds = (digits target (ofDigits source ds.reverse)).reverse := by
  cases ds with
  | nil => rfl
  | cons d ds =>
      have other : d ≠ 0 := fun same => leading (congrArg some same)
      rw [recode, List.takeWhile_cons_of_neg (by simpa using other), List.nil_append]

theorem recode_lt (wide : 2 ≤ target) (ds : List Nat) :
    ∀ d ∈ recode source target ds, d < target := by
  induction ds with
  | nil => simp [recode, ofDigits]
  | cons d ds ih =>
      by_cases zero : d = 0
      · subst zero
        rw [recode_zero_cons]
        exact List.forall_mem_cons.mpr ⟨by omega, ih⟩
      · rw [recode_of_head (by simpa using zero)]
        intro digit inside
        exact digits_lt wide _ digit (List.mem_reverse.mp inside)

theorem recode_recode (wideSource : 2 ≤ source) (wideTarget : 2 ≤ target) {ds : List Nat}
    (small : ∀ d ∈ ds, d < source) : recode target source (recode source target ds) = ds := by
  induction ds with
  | nil => simp [recode, ofDigits]
  | cons d ds ih =>
      by_cases zero : d = 0
      · subst zero
        rw [recode_zero_cons, recode_zero_cons, ih (List.forall_mem_cons.mp small).2]
      · have leading : (d :: ds).head? ≠ some 0 := by simpa using zero
        have again : (digits target (ofDigits source (d :: ds).reverse)).reverse.head? ≠ some 0 := by
          rw [List.head?_reverse]
          exact getLast?_digits wideTarget _
        have least : (d :: ds).reverse.getLast? ≠ some 0 := by
          rwa [List.getLast?_reverse]
        rw [recode_of_head leading, recode_of_head again, List.reverse_reverse,
          ofDigits_digits wideTarget, digits_ofDigits wideSource _ ?_ least, List.reverse_reverse]
        intro digit inside
        exact small digit (List.mem_reverse.mp inside)

end Radix

namespace Base58

theorem digitChar_spec {d : Nat} (small : d < 58) :
    digitOf? (digitChar d) = some d ∧ (digitChar d).toNat < 128 := by
  have all : ∀ d < 58, digitOf? (digitChar d) = some d ∧ (digitChar d).toNat < 128 := by
    decide +kernel
  exact all d small

theorem digitOf?_eq_some_iff {c : Char} {d : Nat} :
    digitOf? c = some d ↔ d < 58 ∧ c = digitChar d := by
  constructor
  · intro found
    obtain ⟨here, same, -⟩ := List.findIdx?_eq_some_iff_getElem.mp found
    have small : d < 58 := here
    refine ⟨small, ?_⟩
    rw [digitChar, List.getD_eq_getElem?_getD, List.getElem?_eq_getElem here]
    exact (eq_of_beq same).symm
  · rintro ⟨small, rfl⟩
    exact (digitChar_spec small).1

theorem readDigits_cons_eq_ok_iff {index : Nat} {c : Char} {cs : List Char} {ds : List Nat} :
    readDigits index (c :: cs) = .ok ds ↔
      ∃ d rest, ds = d :: rest ∧ d < 58 ∧ c = digitChar d ∧ readDigits (index + 1) cs = .ok rest := by
  rw [readDigits]
  constructor
  · intro read
    split at read
    · cases read
    · split at read
      · cases read
      · rename_i d found
        obtain ⟨small, same⟩ := digitOf?_eq_some_iff.mp found
        cases later : readDigits (index + 1) cs with
        | error reason =>
            rw [later] at read
            cases read
        | ok rest =>
            rw [later] at read
            cases read
            exact ⟨d, rest, rfl, small, same, rfl⟩
  · rintro ⟨d, rest, rfl, small, rfl, later⟩
    obtain ⟨read, ascii⟩ := digitChar_spec small
    rw [if_neg (Nat.not_le.mpr ascii), read, later]
    rfl

theorem readDigits_eq_ok_iff {index : Nat} {cs : List Char} {ds : List Nat} :
    readDigits index cs = .ok ds ↔ cs = ds.map digitChar ∧ ∀ d ∈ ds, d < 58 := by
  induction cs generalizing index ds with
  | nil => cases ds <;> simp [readDigits]
  | cons c cs ih =>
      rw [readDigits_cons_eq_ok_iff]
      constructor
      · rintro ⟨d, rest, rfl, small, rfl, later⟩
        obtain ⟨rfl, below⟩ := ih.mp later
        exact ⟨rfl, List.forall_mem_cons.mpr ⟨small, below⟩⟩
      · rintro ⟨written, below⟩
        cases ds with
        | nil => cases written
        | cons d rest =>
            obtain ⟨small, below⟩ := List.forall_mem_cons.mp below
            cases written
            exact ⟨d, rest, rfl, small, rfl, ih.mpr ⟨rfl, below⟩⟩

theorem bytesOfDigits_eq (ds : List Nat) :
    bytesOfDigits ds = (Radix.recode 58 256 ds).map UInt8.ofNat := by
  have blank : ∀ d ∈ ds.takeWhile (· = 0), UInt8.ofNat d = 0 := by
    intro d inside
    have zero : d = 0 := by simpa using List.all_eq_true.mp List.all_takeWhile d inside
    rw [zero]
    rfl
  rw [bytesOfDigits, Radix.recode, List.map_append, List.map_reverse]
  congr 1
  exact (List.map_congr_left blank).symm

theorem encodeChars_eq (bytes : Bytes) :
    encodeChars bytes = (Radix.recode 256 58 (bytes.map UInt8.toNat)).map digitChar := by
  have blank : ∀ b ∈ bytes.takeWhile (· = 0), digitChar b.toNat = '1' := by
    intro b inside
    have zero : b = 0 := by simpa using List.all_eq_true.mp List.all_takeWhile b inside
    rw [zero]
    rfl
  have zeros : (bytes.map UInt8.toNat).takeWhile (· = 0) =
      (bytes.takeWhile (· = 0)).map UInt8.toNat := by
    rw [List.takeWhile_map]
    congr 2
    funext b
    simp [← UInt8.toNat_inj]
  rw [encodeChars, numeral, Bytes.ofBigEndian, Bytes.ofLittleEndian_eq_ofDigits, Radix.recode,
    zeros, List.map_append, List.map_map, List.map_reverse, List.map_reverse, List.map_reverse]
  congr 1
  exact (List.map_congr_left blank).symm

/-- A text of bytes: a `1` for each zero byte in front, and then the shortest numeral of the number
that the bytes make. -/
structure Spells (cs : List Char) (bytes : Bytes) (digits : List Nat) : Prop where
  layout : cs = List.replicate (bytes.takeWhile (· = 0)).length '1' ++ digits.map digitChar
  number : Radix.ofDigits 58 digits.reverse = Bytes.ofBigEndian bytes
  small : ∀ d ∈ digits, d < 58
  shortest : digits.head? ≠ some 0

theorem spells_encodeChars (bytes : Bytes) : Spells (encodeChars bytes) bytes (numeral bytes) where
  layout := by rw [encodeChars, List.map_const']
  number := by rw [numeral, List.reverse_reverse, Radix.ofDigits_digits (by decide)]
  small := by
    intro d inside
    exact Radix.digits_lt (by decide) _ d (List.mem_reverse.mp inside)
  shortest := by
    rw [numeral, List.head?_reverse]
    exact Radix.getLast?_digits (by decide) _

/-- Decoding accepts the texts that encoding writes. -/
theorem decodeChars_eq_ok_iff {cs : List Char} {bytes : Bytes} :
    decodeChars cs = .ok bytes ↔ cs = encodeChars bytes := by
  have bounded : ∀ d ∈ bytes.map UInt8.toNat, d < 256 := by
    intro d inside
    obtain ⟨b, -, rfl⟩ := List.mem_map.mp inside
    exact b.toNat_lt
  rw [decodeChars]
  constructor
  · intro decoded
    cases read : readDigits 0 cs with
    | error reason =>
        rw [read] at decoded
        cases decoded
    | ok ds =>
        obtain ⟨written, small⟩ := readDigits_eq_ok_iff.mp read
        rw [read] at decoded
        cases decoded
        have bytesSmall : ∀ d ∈ Radix.recode 58 256 ds, d < 256 := Radix.recode_lt (by decide) ds
        rw [encodeChars_eq, bytesOfDigits_eq, Bytes.map_toNat_map_ofNat bytesSmall,
          Radix.recode_recode (by decide) (by decide) small, written]
  · rintro rfl
    have read : readDigits 0 (encodeChars bytes) =
        .ok (Radix.recode 256 58 (bytes.map UInt8.toNat)) :=
      readDigits_eq_ok_iff.mpr ⟨encodeChars_eq bytes, Radix.recode_lt (by decide) _⟩
    rw [read]
    show Except.ok (bytesOfDigits _) = _
    rw [bytesOfDigits_eq, Radix.recode_recode (by decide) (by decide) bounded,
      Bytes.map_ofNat_map_toNat]

end Base58
end BridgeClient
