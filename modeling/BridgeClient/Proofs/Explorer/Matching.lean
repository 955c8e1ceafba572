import BridgeClient.Explorer.Transfer
import BridgeClient.Number.Radix
import Mathlib.Data.List.Forall2

set_option autoImplicit false

/-!
Which transfers a watch waits for: those whose addresses are the watched ones up to the case of ASCII
letters, and whose value is a numeral of the watched amount. The first of them in a list is still the
first when other transfers are put in anywhere, or when letters of the watch change their case.
-/
namespace BridgeClient

namespace Ascii

/-- Two characters are the same, or they are one letter of ASCII in its two cases. -/
def SameLetter (a b : Char) : Prop :=
  a = b ∨ ∃ k < 26, a.toNat = 65 + k ∧ b.toNat = 97 + k ∨ a.toNat = 97 + k ∧ b.toNat = 65 + k

/-- Two texts are the same up to the case of ASCII letters. -/
def SameLetters (a b : String) : Prop := List.Forall₂ SameLetter a.toList b.toList

theorem toNat_lower (c : Char) :
    (lower c).toNat = if 65 ≤ c.toNat ∧ c.toNat ≤ 90 then c.toNat + 32 else c.toNat := by
  have upper : ('A' ≤ c && c ≤ 'Z') = true ↔ 65 ≤ c.toNat ∧ c.toNat ≤ 90 := by
    simp [Char.le_def, UInt32.le_iff_toNat_le]
  by_cases letter : 65 ≤ c.toNat ∧ c.toNat ≤ 90
  · have valid : (c.toNat + 32).isValidChar := Or.inl (by omega)
    rw [lower, if_pos (upper.mpr letter), if_pos letter, Char.ofNat, dif_pos valid]
    rfl
  · rw [lower, if_neg (mt upper.mp letter), if_neg letter]

theorem lower_eq_lower_iff {a b : Char} : lower a = lower b ↔ SameLetter a b := by
  rw [← Char.toNat_inj, toNat_lower, toNat_lower, SameLetter, ← Char.toNat_inj]
  constructor
  · intro same
    by_cases left : 65 ≤ a.toNat ∧ a.toNat ≤ 90
    · by_cases right : 65 ≤ b.toNat ∧ b.toNat ≤ 90
      · rw [if_pos left, if_pos right] at same
        exact Or.inl (by omega)
      · rw [if_pos left, if_neg right] at same
        exact Or.inr ⟨a.toNat - 65, by omega, by omega⟩
    · by_cases right : 65 ≤ b.toNat ∧ b.toNat ≤ 90
      · rw [if_neg left, if_pos right] at same
        exact Or.inr ⟨b.toNat - 65, by omega, by omega⟩
      · rw [if_neg left, if_neg right] at same
        exact Or.inl same
  · rintro (same | ⟨k, below, ⟨left, right⟩ | ⟨left, right⟩⟩)
    · rw [same]
    · rw [if_pos (by omega), if_neg (by omega)]
      omega
    · rw [if_neg (by omega), if_pos (by omega)]
      omega

theorem equalIgnoringCase_iff {a b : String} :
    equalIgnoringCase a b = true ↔ SameLetters a b := by
  rw [equalIgnoringCase, decide_eq_true_eq, ← List.forall₂_eq_eq_eq, List.forall₂_map_left_iff,
    List.forall₂_map_right_iff]
  simp only [lower_eq_lower_iff]
  rfl

end Ascii

namespace Numeral

/-- A text is a numeral of a number: a sign `+` may come first, then comes a digit, and then come
digits and `_`, of which only the digits count. -/
def Denotes (text : String) (n : Nat) : Prop :=
  ∃ sign digit rest, text.toList = sign ++ digit :: rest ∧ (sign = [] ∨ sign = ['+']) ∧
    digit.isDigit = true ∧ (∀ c ∈ rest, c.isDigit = true ∨ c = '_') ∧
    n = Radix.ofDigits 10 (((digit :: rest).filter Char.isDigit).map fun c => c.toNat - 48).reverse

theorem ofDigits_reverse (base : Nat) (digits : List Nat) :
    Radix.ofDigits base digits.reverse = digits.foldl (fun n digit => digit + base * n) 0 := by
  have folded : ∀ ds, Radix.ofDigits base ds = ds.foldr (fun digit n => digit + base * n) 0 := by
    intro ds
    induction ds with
    | nil => rfl
    | cons digit ds ih => rw [Radix.ofDigits, ih, List.foldr_cons]
  rw [folded, List.foldr_reverse]

theorem value?_eq_some_iff {cs : List Char} {n m : Nat} :
    value? n cs = some m ↔ (∀ c ∈ cs, c.isDigit = true ∨ c = '_') ∧
      m = ((cs.filter Char.isDigit).map fun c => c.toNat - 48).foldl
        (fun n digit => digit + 10 * n) n := by
  induction cs generalizing n with
  | nil =>
      rw [value?, Option.some.injEq]
      exact ⟨fun same => ⟨by simp, same.symm⟩, fun both => both.2.symm⟩
  | cons c rest ih =>
      have zero : '0'.toNat = 48 := rfl
      by_cases digit : c.isDigit = true
      · simp [value?, digit, ih, zero, Nat.mul_comm, Nat.add_comm]
      · by_cases blank : c = '_'
        · subst blank
          simp [value?, digit, ih]
        · simp [value?, digit, blank]

theorem unsigned_cases (cs : List Char) : cs = unsigned cs ∨ cs = '+' :: unsigned cs := by
  unfold unsigned
  split
  · exact Or.inl rfl
  · exact Or.inr rfl
  · exact Or.inl rfl

theorem unsigned_of_isDigit {digit : Char} (rest : List Char) (real : digit.isDigit = true) :
    unsigned (digit :: rest) = digit :: rest ∧ unsigned ('+' :: digit :: rest) = digit :: rest := by
  have other : digit ≠ '+' := by
    rintro rfl
    cases real
  simp [unsigned, other]

/-- Behind a sign, reading begins at the first digit. -/
theorem parse?_eq_value? {text : String} {sign rest : List Char} {digit : Char}
    (split : text.toList = sign ++ digit :: rest) (signed : sign = [] ∨ sign = ['+'])
    (real : digit.isDigit = true) : parse? text = value? 0 (digit :: rest) := by
  have body : unsigned text.toList = digit :: rest := by
    rcases signed with rfl | rfl
    · rw [split]
      exact (unsigned_of_isDigit rest real).1
    · rw [split]
      exact (unsigned_of_isDigit rest real).2
  have leading : digit ≠ '_' := by
    rintro rfl
    cases real
  simp [parse?, body, leading]

theorem exists_of_parse? {text : String} {n : Nat} (parsed : parse? text = some n) :
    ∃ sign digit rest, text.toList = sign ++ digit :: rest ∧ (sign = [] ∨ sign = ['+']) ∧
      digit.isDigit = true ∧ value? 0 (digit :: rest) = some n := by
  have signed := unsigned_cases text.toList
  rw [parse?] at parsed
  split at parsed
  · cases parsed
  · cases parsed
  · rename_i body blank leading
    cases same : unsigned text.toList with
    | nil => exact absurd same blank
    | cons digit rest =>
        rw [same] at signed parsed
        have real : digit.isDigit = true := by
          rcases (value?_eq_some_iff.mp parsed).1 digit (by simp) with real | rfl
          · exact real
          · exact absurd same (leading rest)
        rcases signed with plain | plus
        · exact ⟨[], digit, rest, plain, Or.inl rfl, real, parsed⟩
        · exact ⟨['+'], digit, rest, plus, Or.inr rfl, real, parsed⟩

theorem parse?_eq_some_iff {text : String} {n : Nat} :
    parse? text = some n ↔ Denotes text n := by
  constructor
  · intro parsed
    obtain ⟨sign, digit, rest, split, signed, real, read⟩ := exists_of_parse? parsed
    obtain ⟨all, value⟩ := value?_eq_some_iff.mp read
    rw [← ofDigits_reverse] at value
    exact ⟨sign, digit, rest, split, signed, real,
      fun c inside => all c (List.mem_cons_of_mem _ inside), value⟩
  · rintro ⟨sign, digit, rest, split, signed, real, others, value⟩
    rw [parse?_eq_value? split signed real, value?_eq_some_iff, ← ofDigits_reverse]
    refine ⟨?_, value⟩
    intro c inside
    rcases List.mem_cons.mp inside with rfl | inside
    · exact Or.inl real
    · exact others c inside

end Numeral

namespace DepositWatch

variable {watch : DepositWatch}

/-- A watch waits for a transfer. -/
structure Matches (watch : DepositWatch) (transfer : TokenTransfer) : Prop where
  asset : Ascii.SameLetters transfer.contractAddress watch.asset
  receiver : Ascii.SameLetters transfer.receiver watch.address
  amount : Numeral.Denotes transfer.value watch.amount

/-- A transfer is the first of a list that a watch waits for. -/
def FirstOf (watch : DepositWatch) (transfers : List TokenTransfer) (transfer : TokenTransfer) :
    Prop :=
  ∃ before after, transfers = before ++ transfer :: after ∧ watch.Matches transfer ∧
    ∀ other ∈ before, ¬ watch.Matches other

/-- A list with transfers put in, anywhere, that a watch does not wait for. -/
inductive Interspersed (watch : DepositWatch) :
    List TokenTransfer → List TokenTransfer → Prop
  | nil : Interspersed watch [] []
  | keep (transfer : TokenTransfer) {list longer : List TokenTransfer}
      (rest : Interspersed watch list longer) :
      Interspersed watch (transfer :: list) (transfer :: longer)
  | insert {transfer : TokenTransfer} (other : ¬ watch.Matches transfer)
      {list longer : List TokenTransfer} (rest : Interspersed watch list longer) :
      Interspersed watch list (transfer :: longer)

theorem isDeposit_iff {transfer : TokenTransfer} :
    TokenTransfer.isDeposit watch transfer = true ↔ watch.Matches transfer := by
  rw [TokenTransfer.isDeposit, Bool.and_eq_true, Bool.and_eq_true, decide_eq_true_eq,
    Ascii.equalIgnoringCase_iff, Ascii.equalIgnoringCase_iff, Numeral.parse?_eq_some_iff]
  constructor
  · rintro ⟨⟨asset, receiver⟩, amount⟩
    exact ⟨asset, receiver, amount⟩
  · rintro ⟨asset, receiver, amount⟩
    exact ⟨⟨asset, receiver⟩, amount⟩

theorem findDeposit_eq_some_iff {transfers : List TokenTransfer} {transfer : TokenTransfer} :
    findDeposit transfers watch = some transfer ↔ watch.FirstOf transfers transfer := by
  rw [findDeposit, List.find?_eq_some_iff_append, isDeposit_iff, FirstOf]
  simp only [Bool.not_eq_true', ← Bool.not_eq_true, isDeposit_iff]
  constructor
  · rintro ⟨matching, before, after, split, earlier⟩
    exact ⟨before, after, split, matching, earlier⟩
  · rintro ⟨before, after, split, matching, earlier⟩
    exact ⟨matching, before, after, split, earlier⟩

/-- A list has a first transfer that a watch waits for as soon as it has any. -/
theorem exists_firstOf_iff {transfers : List TokenTransfer} :
    (∃ transfer, watch.FirstOf transfers transfer) ↔
      ∃ transfer ∈ transfers, watch.Matches transfer := by
  simp only [← findDeposit_eq_some_iff, ← Option.isSome_iff_exists, findDeposit,
    List.find?_isSome, isDeposit_iff]

theorem Interspersed.findDeposit_eq {list longer : List TokenTransfer}
    (interspersed : watch.Interspersed list longer) :
    findDeposit longer watch = findDeposit list watch := by
  unfold findDeposit
  induction interspersed with
  | nil => rfl
  | keep transfer rest ih => rw [List.find?_cons, List.find?_cons, ih]
  | insert other rest ih =>
      rw [List.find?_cons_of_neg, ih]
      exact mt isDeposit_iff.mp other

/-- The case of ASCII letters in a watch makes no difference. -/
theorem findDeposit_recased {address asset : String}
    (sameAddress : Ascii.SameLetters watch.address address)
    (sameAsset : Ascii.SameLetters watch.asset asset) (transfers : List TokenTransfer) :
    findDeposit transfers { watch with address, asset } = findDeposit transfers watch := by
  rw [← Ascii.equalIgnoringCase_iff, Ascii.equalIgnoringCase, decide_eq_true_eq] at sameAddress
  rw [← Ascii.equalIgnoringCase_iff, Ascii.equalIgnoringCase, decide_eq_true_eq] at sameAsset
  unfold findDeposit
  congr 1
  funext transfer
  simp only [TokenTransfer.isDeposit, Ascii.equalIgnoringCase, sameAddress, sameAsset]

end DepositWatch
end BridgeClient
