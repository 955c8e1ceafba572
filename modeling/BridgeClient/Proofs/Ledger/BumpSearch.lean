import BridgeClient.Proofs.Ledger.Derived

set_option autoImplicit false

/-!
The search for a bump, whatever the hash and the curve. A seed that is too long is refused before
anything is hashed; otherwise each bump either makes an address or is passed over, and the search,
which goes downwards, stops at the largest one off the curve.
-/
namespace BridgeClient.Derivation

variable {scheme : Derivation} {seeds : List Bytes} {program address : Key} {bump : UInt8}

/-- Every seed is short enough to be hashed. -/
def Seeded (seeds : List Bytes) : Prop := ∀ seed ∈ seeds, seed.length ≤ maxSeedLength

/-- The hash that a bump gives. -/
def hashAt (scheme : Derivation) (seeds : List Bytes) (program : Key) (bump : UInt8) :
    FixedBytes 32 :=
  scheme.digest (preimage seeds [bump] program)

theorem longSeed?_eq_none_iff : longSeed? seeds = none ↔ Seeded seeds := by
  simp [longSeed?, Seeded]

section Long

theorem create_of_not_seeded (scheme : Derivation) (long : ¬ Seeded seeds) (bump : Bytes)
    (program : Key) :
    ∃ text, scheme.create seeds bump program = .error (.configuration text) := by
  rw [← longSeed?_eq_none_iff] at long
  obtain ⟨length, found⟩ := Option.ne_none_iff_exists'.mp long
  rw [create, found]
  exact ⟨_, rfl⟩

/-- The first bump that is tried ends the search. -/
theorem search_of_not_seeded (long : ¬ Seeded seeds) (program : Key) (count : Nat) :
    ∃ text, scheme.search seeds program (count + 1) = .error (.configuration text) := by
  obtain ⟨text, refused⟩ := create_of_not_seeded scheme long [UInt8.ofNat count] program
  rw [search, refused]
  exact ⟨text, rfl⟩

end Long

section Seeded

theorem create_of_seeded (seeded : Seeded seeds) (program : Key) (bump : UInt8) :
    scheme.create seeds [bump] program =
      if scheme.isOnCurve (scheme.hashAt seeds program bump) then
        .error (.invalidAddress "derived address lies on the ed25519 curve")
      else .ok ⟨scheme.hashAt seeds program bump⟩ := by
  rw [create, longSeed?_eq_none_iff.mpr seeded]
  rfl

/-- A bump is taken if its hash is off the curve, and passed over if it is on the curve. -/
theorem search_succ (seeded : Seeded seeds) (program : Key) (count : Nat) :
    scheme.search seeds program (count + 1) =
      if scheme.isOnCurve (scheme.hashAt seeds program (UInt8.ofNat count)) then
        scheme.search seeds program count
      else .ok (⟨scheme.hashAt seeds program (UInt8.ofNat count)⟩, UInt8.ofNat count) := by
  rw [search, create_of_seeded seeded]
  by_cases on : scheme.isOnCurve (scheme.hashAt seeds program (UInt8.ofNat count)) = true
  · rw [if_pos on, if_pos on]
  · rw [if_neg on, if_neg on]

/-- The address of a bump off the curve, all larger ones below `count` being on the curve. -/
structure Finds (scheme : Derivation) (seeds : List Bytes) (program : Key) (count : Nat)
    (address : Key) (bump : UInt8) : Prop where
  below : bump.toNat < count
  off : scheme.isOnCurve (scheme.hashAt seeds program bump) = false
  above : ∀ other, bump < other → other.toNat < count →
    scheme.isOnCurve (scheme.hashAt seeds program other) = true
  hash : address.bytes = scheme.hashAt seeds program bump

/-- What is found below a bump on the curve is found with that bump too. -/
theorem finds_succ_iff_of_on {count : Nat}
    (on : scheme.isOnCurve (scheme.hashAt seeds program (UInt8.ofNat count)) = true) :
    scheme.Finds seeds program (count + 1) address bump ↔
      scheme.Finds seeds program count address bump := by
  have only {other : UInt8} (last : other.toNat = count) : other = UInt8.ofNat count := by
    rw [← last, UInt8.ofNat_toNat]
  constructor
  · intro found
    have apart : bump.toNat ≠ count := by
      intro last
      have off := found.off
      rw [only last, on] at off
      cases off
    have bound := found.below
    exact ⟨by omega, found.off, fun other larger below => found.above other larger (by omega),
      found.hash⟩
  · intro found
    refine ⟨Nat.lt_succ_of_lt found.below, found.off, ?_, found.hash⟩
    intro other larger below
    by_cases last : other.toNat = count
    · rw [only last]
      exact on
    · exact found.above other larger (by omega)

/-- A bump off the curve hides all smaller ones. -/
theorem finds_succ_iff_of_off {count : Nat} (small : count < 256)
    (off : scheme.isOnCurve (scheme.hashAt seeds program (UInt8.ofNat count)) = false) :
    scheme.Finds seeds program (count + 1) address bump ↔
      bump = UInt8.ofNat count ∧
        address.bytes = scheme.hashAt seeds program (UInt8.ofNat count) := by
  have value : (UInt8.ofNat count).toNat = count := UInt8.toNat_ofNat_of_lt' small
  constructor
  · intro found
    have same : bump = UInt8.ofNat count := by
      by_contra apart
      have bound := found.below
      have differ : bump.toNat ≠ count := fun last => apart (by rw [← last, UInt8.ofNat_toNat])
      have larger : bump < UInt8.ofNat count := by
        rw [UInt8.lt_iff_toNat_lt, value]
        omega
      have on := found.above _ larger (by omega)
      rw [off] at on
      cases on
    refine ⟨same, ?_⟩
    rw [← same]
    exact found.hash
  · rintro ⟨rfl, hash⟩
    refine ⟨by omega, off, ?_, hash⟩
    intro other larger below
    rw [UInt8.lt_iff_toNat_lt, value] at larger
    omega

/-- The search answers with the largest bump off the curve. -/
theorem search_eq_ok_iff (seeded : Seeded seeds) {count : Nat} (bytes : count ≤ 256) :
    scheme.search seeds program count = .ok (address, bump) ↔
      scheme.Finds seeds program count address bump := by
  induction count with
  | zero =>
      constructor
      · intro found
        cases found
      · intro found
        exact absurd found.below (Nat.not_lt_zero _)
  | succ count ih =>
      rw [search_succ seeded]
      cases on : scheme.isOnCurve (scheme.hashAt seeds program (UInt8.ofNat count)) with
      | true => rw [if_pos rfl, ih (by omega), finds_succ_iff_of_on on]
      | false =>
          rw [if_neg Bool.false_ne_true, finds_succ_iff_of_off (by omega) on]
          constructor
          · intro found
            cases found
            exact ⟨rfl, rfl⟩
          · rintro ⟨rfl, hash⟩
            rw [← hash]

/-- With all hashes on the curve the search comes to its end, and there are no other errors. -/
theorem search_eq_error_iff (seeded : Seeded seeds) {count : Nat} (bytes : count ≤ 256)
    {reason : BridgeError} :
    scheme.search seeds program count = .error reason ↔
      reason = .invalidAddress "could not find valid PDA bump seed" ∧
        ∀ bump : UInt8, bump.toNat < count →
          scheme.isOnCurve (scheme.hashAt seeds program bump) = true := by
  induction count with
  | zero =>
      constructor
      · intro failed
        cases failed
        exact ⟨rfl, fun bump below => absurd below (Nat.not_lt_zero _)⟩
      · rintro ⟨rfl, -⟩
        rfl
  | succ count ih =>
      have value : (UInt8.ofNat count).toNat = count := UInt8.toNat_ofNat_of_lt' bytes
      rw [search_succ seeded]
      cases on : scheme.isOnCurve (scheme.hashAt seeds program (UInt8.ofNat count)) with
      | true =>
          rw [if_pos rfl, ih (by omega)]
          constructor
          · rintro ⟨rfl, all⟩
            refine ⟨rfl, ?_⟩
            intro bump below
            by_cases last : bump.toNat = count
            · rw [show bump = UInt8.ofNat count by rw [← last, UInt8.ofNat_toNat]]
              exact on
            · exact all bump (by omega)
          · rintro ⟨rfl, all⟩
            exact ⟨rfl, fun bump below => all bump (by omega)⟩
      | false =>
          rw [if_neg Bool.false_ne_true]
          constructor
          · intro failed
            cases failed
          · rintro ⟨-, all⟩
            rw [all _ (by omega)] at on
            cases on

/-- All bumps are tried, so none is off the curve that is larger than the one found. -/
theorem find_eq_ok_iff (seeded : Seeded seeds) :
    scheme.find seeds program = .ok (address, bump) ↔
      scheme.isOnCurve (scheme.hashAt seeds program bump) = false ∧
        (∀ other, bump < other → scheme.isOnCurve (scheme.hashAt seeds program other) = true) ∧
        address.bytes = scheme.hashAt seeds program bump := by
  rw [find, search_eq_ok_iff seeded (Nat.le_refl _)]
  constructor
  · intro finds
    exact ⟨finds.off, fun other larger => finds.above other larger other.toNat_lt, finds.hash⟩
  · rintro ⟨off, above, hash⟩
    exact ⟨bump.toNat_lt, off, fun other larger _ => above other larger, hash⟩

theorem find_eq_error_iff (seeded : Seeded seeds) {reason : BridgeError} :
    scheme.find seeds program = .error reason ↔
      reason = .invalidAddress "could not find valid PDA bump seed" ∧
        ∀ bump, scheme.isOnCurve (scheme.hashAt seeds program bump) = true := by
  have all_below (bump : UInt8) : bump.toNat < 256 := bump.toNat_lt
  rw [find, search_eq_error_iff seeded (Nat.le_refl _)]
  simp only [all_below, true_implies]

theorem find_eq_invalidAddress_iff (seeded : Seeded seeds) :
    (∃ text, scheme.find seeds program = .error (.invalidAddress text)) ↔
      ∀ bump, scheme.isOnCurve (scheme.hashAt seeds program bump) = true := by
  constructor
  · rintro ⟨text, failed⟩
    exact ((find_eq_error_iff seeded).mp failed).2
  · intro all
    exact ⟨_, (find_eq_error_iff seeded).mpr ⟨rfl, all⟩⟩

end Seeded

theorem find_eq_configuration_iff :
    (∃ text, scheme.find seeds program = .error (.configuration text)) ↔ ¬ Seeded seeds := by
  constructor
  · rintro ⟨text, failed⟩ seeded
    obtain ⟨other, _⟩ := (find_eq_error_iff seeded).mp failed
    cases other
  · intro long
    exact search_of_not_seeded long program 255

/-- The search for an address fails with a configuration error just for a seed that is too long. Of
short seeds it finds the largest bump whose hash is off the curve, with that hash for the address,
which is also what the bump makes on its own; and it fails with an invalid address just if every
hash is on the curve. -/
theorem find_takes_largest_bump (scheme : Derivation) (seeds : List Bytes) (program : Key) :
    let hash (bump : UInt8) :=
      scheme.digest (seeds.flatten ++ bump :: (program.bytes.toList ++ marker))
    let found := scheme.find seeds program
    ((∃ text, found = .error (.configuration text)) ↔ ∃ seed ∈ seeds, 32 < seed.length) ∧
      ((∀ seed ∈ seeds, seed.length ≤ 32) →
        (∀ address bump, found = .ok (address, bump) ↔
          scheme.isOnCurve (hash bump) = false ∧
            (∀ other, bump < other → scheme.isOnCurve (hash other) = true) ∧
            address.bytes = hash bump) ∧
        (∀ address bump, found = .ok (address, bump) →
          scheme.create seeds [bump] program = .ok address) ∧
        ((∃ text, found = .error (.invalidAddress text)) ↔
          ∀ bump, scheme.isOnCurve (hash bump) = true)) := by
  intro hash found
  have long : ¬ Seeded seeds ↔ ∃ seed ∈ seeds, 32 < seed.length := by
    simp [Seeded, maxSeedLength]
  refine ⟨find_eq_configuration_iff.trans long, ?_⟩
  intro seeded
  refine ⟨?_, ?_, find_eq_invalidAddress_iff seeded⟩
  · intro address bump
    exact find_eq_ok_iff seeded
  · intro address bump taken
    exact create_of_search taken

/-- The last bump that is tried is 0. -/
example :
    let scheme : Derivation :=
      ⟨fun bytes => FixedBytes.fill 32 (bytes.headD 0), fun hash => hash.toList.any (· ≠ 0)⟩
    scheme.find [] (Key.fill 7) = .ok (Key.fill 0, 0) := by
  decide +kernel

end BridgeClient.Derivation
