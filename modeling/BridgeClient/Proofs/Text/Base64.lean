import BridgeClient.Proofs.Sequencing
import BridgeClient.Proofs.Text.Utf8
import BridgeClient.Text.Base64

set_option autoImplicit false

/-!
Base64 reads what it writes, and nothing else: the padding has to be there, and the bits that no
byte needs have to be zero.
-/
namespace BridgeClient.Base64

open Sequencing

theorem symbol_spec {value : Nat} (small : value < 64) :
    valueOf? (symbol value) = some value ∧ symbol value ≠ padding ∧ (symbol value).toNat < 128 := by
  have all : ∀ value < 64, valueOf? (symbol value) = some value ∧ symbol value ≠ padding ∧
      (symbol value).toNat < 128 := by decide +kernel
  exact all value small

theorem valueOf?_eq_some_iff {letter : UInt8} {value : Nat} :
    valueOf? letter = some value ↔ value < 64 ∧ letter = symbol value := by
  constructor
  · intro found
    obtain ⟨here, same, -⟩ := List.idxOf?_eq_some_iff.mp found
    have small : value < 64 := here
    refine ⟨small, ?_⟩
    rw [symbol, List.getD_eq_getElem?_getD, List.getElem?_eq_getElem here]
    exact same.symm
  · rintro ⟨small, rfl⟩
    exact (symbol_spec small).1

theorem values_cons_eq_ok_iff {offset : Nat} {letter : UInt8} {rest : Bytes} {found : List Nat} :
    values offset (letter :: rest) = .ok found ↔ ∃ value others, found = value :: others ∧
      value < 64 ∧ letter = symbol value ∧ values (offset + 1) rest = .ok others := by
  rw [values]
  cases known : valueOf? letter with
  | none =>
      refine iff_of_false (by simp) ?_
      rintro ⟨value, _, -, small, rfl, -⟩
      rw [(symbol_spec small).1] at known
      cases known
  | some value =>
      obtain ⟨small, rfl⟩ := valueOf?_eq_some_iff.mp known
      dsimp only
      rw [map_eq_ok_iff]
      constructor
      · rintro ⟨others, read, rfl⟩
        exact ⟨value, others, rfl, small, rfl, read⟩
      · rintro ⟨other, others, rfl, also, same, read⟩
        have known' := (symbol_spec also).1
        rw [← same, known] at known'
        cases known'
        exact ⟨others, read, rfl⟩

/-- The values of a group are read if it is made of symbols. -/
theorem values_eq_ok_iff {offset : Nat} {group : Bytes} {found : List Nat} :
    values offset group = .ok found ↔ group = found.map symbol ∧ ∀ value ∈ found, value < 64 := by
  induction group generalizing offset found with
  | nil => cases found <;> simp [values]
  | cons letter rest ih =>
      rw [values_cons_eq_ok_iff]
      simp only [ih]
      constructor
      · rintro ⟨value, others, rfl, small, rfl, rfl, smaller⟩
        exact ⟨rfl, List.forall_mem_cons.mpr ⟨small, smaller⟩⟩
      · rintro ⟨same, small⟩
        cases found with
        | nil => cases same
        | cons value others =>
            cases same
            obtain ⟨here, later⟩ := List.forall_mem_cons.mp small
            exact ⟨value, others, rfl, here, rfl, rfl, later⟩

/-! ## Groups -/

/-- Four values make three bytes, which are written as the symbols of the values. -/
theorem symbols_lastBytes_append {a b c d : Nat} (smallA : a < 64) (smallB : b < 64)
    (smallC : c < 64) (smallD : d < 64) (rest : Bytes) :
    symbols ((lastBytes [a, b, c, d]).1 ++ rest) =
      symbol a :: symbol b :: symbol c :: symbol d :: symbols rest := by
  simp only [lastBytes, List.cons_append, List.nil_append, symbols, UInt8.toNat_ofNat']
  congr 1
  · congr 1
    omega
  congr 1
  · congr 1
    omega
  congr 1
  · congr 1
    omega
  congr 1
  congr 1
  omega

/-- Any three bytes are made of four values. -/
theorem exists_lastBytes (x y z : UInt8) : ∃ a b c d, a < 64 ∧ b < 64 ∧ c < 64 ∧ d < 64 ∧
    (lastBytes [a, b, c, d]).1 = [x, y, z] := by
  have smallX := x.toNat_lt
  have smallY := y.toNat_lt
  have smallZ := z.toNat_lt
  let n := (x.toNat * 256 + y.toNat) * 256 + z.toNat
  have whole : ((n / 262144 * 64 + n / 4096 % 64) * 64 + n / 64 % 64) * 64 + n % 64 = n := by omega
  refine ⟨n / 262144, n / 4096 % 64, n / 64 % 64, n % 64, by omega, by omega, by omega, by omega,
    ?_⟩
  simp only [lastBytes, whole, List.cons.injEq, and_true, ← UInt8.toNat_inj, UInt8.toNat_ofNat']
  omega

/-- Two to four values make a last group if the bits that no byte needs are zero: the symbols, and
padding in place of what is missing. -/
def IsLast (found : List Nat) (bytes : Bytes) : Prop :=
  (∀ value ∈ found, value < 64) ∧ 2 ≤ found.length ∧ found.length ≤ 4 ∧
    lastBytes found = (bytes, true)

/-- The symbols of a last group. -/
def padded (found : List Nat) : Bytes :=
  found.map symbol ++ List.replicate (4 - found.length) padding

theorem symbols_of_isLast {found : List Nat} {bytes : Bytes} (last : IsLast found bytes) :
    symbols bytes = padded found := by
  obtain ⟨small, many, few, made⟩ := last
  match found, many, few with
  | [a, b], _, _ =>
      simp only [List.forall_mem_cons, List.not_mem_nil, false_implies, implies_true] at small
      simp only [lastBytes, Prod.mk.injEq, decide_eq_true_eq] at made
      obtain ⟨rfl, clean⟩ := made
      have value : (UInt8.ofNat ((a * 64 + b) / 16)).toNat * 16 = a * 64 + b := by
        rw [UInt8.toNat_ofNat']
        omega
      have front : (a * 64 + b) / 64 = a := by omega
      have back : (a * 64 + b) % 64 = b := by omega
      simp only [symbols, value, front, back]
      rfl
  | [a, b, c], _, _ =>
      simp only [List.forall_mem_cons, List.not_mem_nil, false_implies, implies_true] at small
      simp only [lastBytes, Prod.mk.injEq, decide_eq_true_eq] at made
      obtain ⟨rfl, clean⟩ := made
      have value : ((UInt8.ofNat (((a * 64 + b) * 64 + c) / 1024)).toNat * 256 +
          (UInt8.ofNat (((a * 64 + b) * 64 + c) / 4)).toNat) * 4 = (a * 64 + b) * 64 + c := by
        rw [UInt8.toNat_ofNat', UInt8.toNat_ofNat']
        omega
      have front : ((a * 64 + b) * 64 + c) / 4096 = a := by omega
      have middle : ((a * 64 + b) * 64 + c) / 64 % 64 = b := by omega
      have back : ((a * 64 + b) * 64 + c) % 64 = c := by omega
      simp only [symbols, value, front, middle, back]
      rfl
  | [a, b, c, d], _, _ =>
      simp only [List.forall_mem_cons, List.not_mem_nil, false_implies, implies_true, and_true]
        at small
      obtain ⟨smallA, smallB, smallC, smallD⟩ := small
      have written := symbols_lastBytes_append smallA smallB smallC smallD []
      rw [List.append_nil, made] at written
      exact written

/-- One to three bytes are made of the values of one last group. -/
theorem exists_isLast {bytes : Bytes} (some : bytes ≠ []) (few : bytes.length ≤ 3) :
    ∃ found, IsLast found bytes := by
  match bytes, some, few with
  | [x], _, _ =>
      have small := x.toNat_lt
      refine ⟨[x.toNat / 4, x.toNat % 4 * 16], ?_, by simp, by simp, ?_⟩
      · simp only [List.forall_mem_cons, List.not_mem_nil, false_implies, implies_true, and_true]
        omega
      · have whole : x.toNat / 4 * 64 + x.toNat % 4 * 16 = x.toNat * 16 := by omega
        simp [lastBytes, whole]
  | [x, y], _, _ =>
      have smallX := x.toNat_lt
      have smallY := y.toNat_lt
      let n := (x.toNat * 256 + y.toNat) * 4
      have whole : (n / 4096 * 64 + n / 64 % 64) * 64 + n % 64 = n := by omega
      refine ⟨[n / 4096, n / 64 % 64, n % 64], ?_, by simp, by simp, ?_⟩
      · simp only [List.forall_mem_cons, List.not_mem_nil, false_implies, implies_true, and_true]
        omega
      · simp only [lastBytes, whole, Prod.mk.injEq, List.cons.injEq, and_true, ← UInt8.toNat_inj,
          UInt8.toNat_ofNat', decide_eq_true_eq]
        omega
  | [x, y, z], _, _ =>
      obtain ⟨a, b, c, d, smallA, smallB, smallC, smallD, made⟩ := exists_lastBytes x y z
      refine ⟨[a, b, c, d], by simp [smallA, smallB, smallC, smallD], by simp, by simp, ?_⟩
      exact Prod.ext made rfl

theorem dropWhile_padded {found : List Nat} (small : ∀ value ∈ found, value < 64) :
    (padded found).takeWhile (· ≠ padding) = found.map symbol ∧
      (padded found).dropWhile (· ≠ padding) = List.replicate (4 - found.length) padding := by
  have letters : ∀ letter ∈ found.map symbol, decide (letter ≠ padding) = true := by
    intro letter inside
    obtain ⟨value, among, rfl⟩ := List.mem_map.mp inside
    exact decide_eq_true (symbol_spec (small value among)).2.1
  rw [padded, List.takeWhile_append_of_pos letters, List.dropWhile_append_of_pos letters,
    List.takeWhile_replicate, List.dropWhile_replicate]
  simp

theorem decodeLast_eq (offset : Nat) (group : Bytes) :
    decodeLast offset group = (values offset (group.takeWhile (· ≠ padding)) >>= fun found =>
      let length := (group.takeWhile (· ≠ padding)).length
      let back := group.dropWhile (· ≠ padding)
      if !back.isEmpty && (length < 2 || back.any (· ≠ padding)) then
        .error (.invalidSymbol padding (offset + length))
      else if length < 2 then .error (.invalidLength (offset + length))
      else if group.length ≠ 4 then .error .invalidPadding
      else if (lastBytes found).2 then .ok (lastBytes found).1
      else .error (.invalidLastSymbol ((group.takeWhile (· ≠ padding)).getLast?.getD padding)
        (offset + length - 1))) := by
  rw [decodeLast]
  congr 1
  funext found
  rcases lastBytes found with ⟨bytes, clean⟩
  cases clean <;> rfl

/-- A last group is read if it is what some values are written as. -/
theorem decodeLast_eq_ok_iff {offset : Nat} {group bytes : Bytes} :
    decodeLast offset group = .ok bytes ↔ ∃ found, IsLast found bytes ∧ group = padded found := by
  rw [decodeLast_eq, bind_eq_ok_iff]
  refine exists_congr fun found => ?_
  rw [values_eq_ok_iff]
  constructor
  · rintro ⟨⟨front, small⟩, checked⟩
    have joined := List.takeWhile_append_dropWhile (p := (· ≠ padding)) (l := group)
    rw [front] at checked joined
    rw [List.length_map] at checked
    dsimp only at checked
    split at checked
    · cases checked
    rename_i regular
    split at checked
    · cases checked
    rename_i many
    split at checked
    · cases checked
    rename_i whole
    split at checked
    · rename_i clean
      cases checked
      have lengths := congrArg List.length joined
      rw [List.length_append, List.length_map] at lengths
      have filled : group.dropWhile (· ≠ padding) =
          List.replicate (group.dropWhile (· ≠ padding)).length padding := by
        apply List.eq_replicate_of_mem
        intro letter inside
        refine Decidable.byContradiction fun other => regular ?_
        simp only [Bool.and_eq_true, Bool.or_eq_true, List.any_eq_true, decide_eq_true_eq]
        exact ⟨by simpa using List.ne_nil_of_mem inside, Or.inr ⟨letter, inside, other⟩⟩
      refine ⟨⟨small, Nat.le_of_not_lt many, by omega, Prod.ext rfl clean⟩, ?_⟩
      have missing : (group.dropWhile (· ≠ padding)).length = 4 - found.length := by omega
      rw [← joined, filled, missing, padded]
    · cases checked
  · rintro ⟨⟨small, many, few, made⟩, rfl⟩
    obtain ⟨front, back⟩ := dropWhile_padded small
    have whole : (padded found).length = 4 := by
      rw [padded, List.length_append, List.length_map, List.length_replicate]
      omega
    refine ⟨⟨front, small⟩, ?_⟩
    rw [front, back, made]
    simp [whole, Nat.not_lt.mpr many]

/-! ## Whole texts -/

/-- Three bytes make one group each, and what is left makes the last. -/
theorem length_symbols (bytes : Bytes) : (symbols bytes).length = (bytes.length + 2) / 3 * 4 := by
  fun_induction symbols bytes with
  | case1 => rfl
  | case2 | case3 => simp
  | case4 x y z rest n ih =>
      rw [List.length_cons, List.length_cons, List.length_cons, List.length_cons, ih,
        List.length_cons, List.length_cons, List.length_cons]
      omega

/-- Groups are read if they are what some bytes are written as. -/
theorem decodeGroups_eq_ok_iff {offset : Nat} {letters bytes : Bytes} :
    decodeGroups offset letters = .ok bytes ↔ letters = symbols bytes := by
  fun_induction decodeGroups offset letters generalizing bytes with
  | case1 offset a b c d e rest ih =>
      simp only [bind_eq_ok_iff, ih, values_cons_eq_ok_iff]
      constructor
      · rintro ⟨_, ⟨a, _, rfl, smallA, rfl, b, _, rfl, smallB, rfl, c, _, rfl, smallC, rfl,
          d, _, rfl, smallD, rfl, ended⟩, others, same, whole⟩
        cases ended
        cases whole
        rw [symbols_lastBytes_append smallA smallB smallC smallD, same]
      · intro same
        have lengths := congrArg List.length same
        rw [length_symbols] at lengths
        match bytes with
        | [] | [_] | [_, _] | [_, _, _] => simp at lengths
        | x :: y :: z :: w :: others =>
            obtain ⟨a, b, c, d, smallA, smallB, smallC, smallD, made⟩ := exists_lastBytes x y z
            have written := symbols_lastBytes_append smallA smallB smallC smallD (w :: others)
            rw [made] at written
            have split := same.trans written
            simp only [List.cons.injEq] at split
            obtain ⟨rfl, rfl, rfl, rfl, later⟩ := split
            refine ⟨_, ⟨a, _, rfl, smallA, rfl, b, _, rfl, smallB, rfl, c, _, rfl, smallC, rfl,
              d, _, rfl, smallD, rfl, rfl⟩, w :: others, later, ?_⟩
            rw [made]
            rfl
  | case2 offset =>
      constructor
      · intro read
        cases read
        rfl
      · intro same
        have lengths := congrArg List.length same
        rw [length_symbols, List.length_nil] at lengths
        have none_left : bytes.length = 0 := by omega
        rw [List.length_eq_zero_iff.mp none_left]
  | case3 offset group long some =>
      have few : group.length ≤ 4 := by
        match group with
        | [] | [_] | [_, _] | [_, _, _] | [_, _, _, _] => simp
        | a :: b :: c :: d :: e :: rest => exact absurd rfl (long a b c d e rest)
      rw [decodeLast_eq_ok_iff]
      constructor
      · rintro ⟨found, last, rfl⟩
        exact (symbols_of_isLast last).symm
      · rintro rfl
        rw [length_symbols] at few
        obtain ⟨found, last⟩ : ∃ found, IsLast found bytes :=
          exists_isLast (by rintro rfl; exact some rfl) (by omega)
        exact ⟨found, last, symbols_of_isLast last⟩

theorem decodeSymbols_eq_ok_iff {letters bytes : Bytes} :
    decodeSymbols letters = .ok bytes ↔ letters = symbols bytes := by
  have groups : decodeGroups 0 letters = .ok bytes ↔ letters = symbols bytes :=
    decodeGroups_eq_ok_iff
  rw [decodeSymbols, ← groups]
  cases last : letters.getLast? with
  | none =>
      rw [List.getLast?_eq_none_iff.mp last]
      rfl
  | some letter =>
      dsimp only
      split
      · rename_i alone
        refine iff_of_false (by simp) ?_
        intro read
        have lengths := congrArg List.length (groups.mp read)
        rw [length_symbols] at lengths
        simp only [Bool.and_eq_true, decide_eq_true_eq] at alone
        omega
      · rfl

theorem symbols_ascii (bytes : Bytes) : ∀ letter ∈ symbols bytes, letter.toNat < 128 := by
  have small (value : Nat) (fits : value < 64) := (symbol_spec fits).2.2
  have filler : padding.toNat < 128 := by decide
  fun_induction symbols bytes with
  | case1 => simp
  | case2 x n =>
      have bound := x.toNat_lt
      simp only [List.forall_mem_cons, List.not_mem_nil, false_implies, implies_true, and_true]
      exact ⟨small _ (by omega), small _ (by omega), filler, filler⟩
  | case3 x y n =>
      have boundX := x.toNat_lt
      have boundY := y.toNat_lt
      simp only [List.forall_mem_cons, List.not_mem_nil, false_implies, implies_true, and_true]
      exact ⟨small _ (by omega), small _ (by omega), small _ (by omega), filler⟩
  | case4 x y z rest n ih =>
      have boundX := x.toNat_lt
      have boundY := y.toNat_lt
      have boundZ := z.toNat_lt
      simp only [List.forall_mem_cons]
      exact ⟨small _ (by omega), small _ (by omega), small _ (by omega), small _ (by omega), ih⟩

/-- Symbols are ASCII, so the text has a byte for each. -/
theorem ofText_encode (bytes : Bytes) : Bytes.ofText (encode bytes) = symbols bytes :=
  Bytes.ofText_ofList_map_char (symbols_ascii bytes)

/-- A text is read as some bytes if it is how they are written. -/
theorem decode_eq_ok_iff {text : String} {bytes : Bytes} :
    decode text = .ok bytes ↔ text = encode bytes := by
  rw [decode, ← Bytes.ofText, decodeSymbols_eq_ok_iff, ← ofText_encode, Bytes.ofText_inj]

end BridgeClient.Base64
