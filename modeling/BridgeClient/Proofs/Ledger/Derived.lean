import BridgeClient.Ledger.TokenAccount
import BridgeClient.Program.Port
import BridgeClient.Proofs.Bytes
import Mathlib.Data.List.Basic

set_option autoImplicit false

/-!
What a derived address tells about its origin. Seeds, bump, program and marker are hashed one after
the other, without lengths between them. The seeds in use have fixed widths, so the hashed string
tells all of them, and two origins of one address are a collision of the hash.
-/
namespace BridgeClient

namespace Derivation

variable {scheme : Derivation} {seeds : List Bytes} {program address : Key}

theorem digest_of_create {bump : Bytes}
    (created : scheme.create seeds bump program = .ok address) :
    scheme.digest (preimage seeds bump program) = address.bytes := by
  unfold create at created
  split at created
  · cases created
  · dsimp only at created
    split at created
    · cases created
    · cases created
      rfl

/-- What a search finds is what its bump makes. -/
theorem create_of_search {count : Nat} {bump : UInt8}
    (found : scheme.search seeds program count = .ok (address, bump)) :
    scheme.create seeds [bump] program = .ok address := by
  induction count with
  | zero => cases found
  | succ count ih =>
      unfold search at found
      split at found
      · rename_i created
        cases found
        exact created
      · exact ih found
      · cases found

theorem digest_of_find {bump : UInt8} (found : scheme.find seeds program = .ok (address, bump)) :
    scheme.digest (preimage seeds [bump] program) = address.bytes :=
  digest_of_create (create_of_search found)

end Derivation

/-- An account whose address is derived: the token account of a wallet for a mint, or the authority
of a port program. -/
inductive DerivedAccount where
  | tokenAccount (owner mint : Key)
  | portAuthority (port : Key)
deriving DecidableEq

namespace DerivedAccount

def address (scheme : Derivation) : DerivedAccount → Except BridgeError Key
  | tokenAccount owner mint => associatedTokenAddress scheme owner mint
  | portAuthority port => (BridgeClient.portAuthority scheme port).map Prod.fst

def seeds : DerivedAccount → List Bytes
  | tokenAccount owner mint =>
      [owner.bytes.toList, Programs.token.bytes.toList, mint.bytes.toList]
  | portAuthority _ => [portSeed]

def program : DerivedAccount → Key
  | tokenAccount _ _ => Programs.associatedToken
  | portAuthority port => port

/-- The string that is hashed for an account with some bump. -/
def preimage (account : DerivedAccount) (bump : UInt8) : Bytes :=
  Derivation.preimage account.seeds [bump] account.program

theorem address_eq_ok_iff {scheme : Derivation} {account : DerivedAccount} {address : Key} :
    account.address scheme = .ok address ↔
      ∃ bump, scheme.find account.seeds account.program = .ok (address, bump) := by
  have searched : account.address scheme =
      (scheme.find account.seeds account.program).map Prod.fst := by
    cases account <;> rfl
  rw [searched]
  cases scheme.find account.seeds account.program with
  | error reason => simp [Except.map]
  | ok found =>
      obtain ⟨key, bump⟩ := found
      simp [Except.map]

theorem preimage_tokenAccount (owner mint : Key) (bump : UInt8) :
    (tokenAccount owner mint).preimage bump =
      owner.bytes.toList ++ (Programs.token.bytes.toList ++ (mint.bytes.toList ++
        bump :: (Programs.associatedToken.bytes.toList ++ Derivation.marker))) := by
  simp [preimage, Derivation.preimage, seeds, program]

theorem preimage_portAuthority (port : Key) (bump : UInt8) :
    (portAuthority port).preimage bump =
      portSeed ++ bump :: (port.bytes.toList ++ Derivation.marker) := by
  simp [preimage, Derivation.preimage, seeds, program]

/-- The two kinds of accounts are told apart by the length alone. -/
theorem length_preimage (account : DerivedAccount) (bump : UInt8) :
    (account.preimage bump).length =
      match account with
      | tokenAccount _ _ => 150
      | portAuthority _ => 60 := by
  have marked : Derivation.marker.length = 21 := rfl
  have seeded : portSeed.length = 6 := rfl
  cases account with
  | tokenAccount owner mint =>
      simp only [preimage_tokenAccount, List.length_append, List.length_cons,
        FixedBytes.length_toList, marked]
  | portAuthority port =>
      simp only [preimage_portAuthority, List.length_append, List.length_cons,
        FixedBytes.length_toList, marked, seeded]

/-- A hashed string tells the account and the bump that it was made for. -/
theorem preimage_inj {first second : DerivedAccount} {bump other : UInt8}
    (same : first.preimage bump = second.preimage other) : first = second ∧ bump = other := by
  have lengths := congrArg List.length same
  rw [length_preimage, length_preimage] at lengths
  cases first with
  | tokenAccount owner mint =>
      cases second with
      | tokenAccount holder token =>
          rw [preimage_tokenAccount, preimage_tokenAccount,
            FixedBytes.append_eq_append_iff] at same
          obtain ⟨owners, same⟩ := same
          rw [FixedBytes.append_eq_append_iff] at same
          obtain ⟨_, same⟩ := same
          rw [FixedBytes.append_eq_append_iff] at same
          obtain ⟨mints, same⟩ := same
          cases owner
          cases mint
          cases owners
          cases mints
          exact ⟨rfl, (List.cons.inj same).1⟩
      | portAuthority port => cases lengths
  | portAuthority port =>
      cases second with
      | tokenAccount owner mint => cases lengths
      | portAuthority elsewhere =>
          rw [preimage_portAuthority, preimage_portAuthority] at same
          obtain ⟨bumps, same⟩ := List.cons.inj (List.append_cancel_left same)
          obtain ⟨ports, _⟩ := FixedBytes.append_eq_append_iff.mp same
          cases port
          cases ports
          exact ⟨rfl, bumps⟩

/-- Whatever the hash and the curve: two accounts have one address only if the strings that became
it, each with the bump that was found for its account, differ and have one hash. -/
theorem shared_address_collides (scheme : Derivation) (first second : DerivedAccount)
    (address : Key) (apart : first ≠ second) (one : first.address scheme = .ok address)
    (other : second.address scheme = .ok address) :
    ∃ bump bump', scheme.find first.seeds first.program = .ok (address, bump) ∧
      scheme.find second.seeds second.program = .ok (address, bump') ∧
      first.preimage bump ≠ second.preimage bump' ∧
      scheme.digest (first.preimage bump) = address.bytes ∧
      scheme.digest (second.preimage bump') = address.bytes := by
  obtain ⟨bump, found⟩ := address_eq_ok_iff.mp one
  obtain ⟨bump', found'⟩ := address_eq_ok_iff.mp other
  refine ⟨bump, bump', found, found', ?_, Derivation.digest_of_find found,
    Derivation.digest_of_find found'⟩
  intro same
  exact apart (preimage_inj same).1

/-- A hash that only adds up bytes does not tell a wallet from its mint. Odd sums are on the curve
here, so the first bump is passed over. -/
theorem shared_address_collides_swapped :
    let scheme : Derivation :=
      { digest := fun bytes => FixedBytes.fill 32 (bytes.foldl (· + ·) 0)
        isOnCurve := fun hash => hash.toList.all fun byte => byte % 2 = 1 }
    let first := tokenAccount (Key.fill 1) (Key.fill 2)
    let second := tokenAccount (Key.fill 2) (Key.fill 1)
    first ≠ second ∧ first.address scheme = second.address scheme ∧
      ∃ bump bump', first.preimage bump ≠ second.preimage bump' ∧
        scheme.digest (first.preimage bump) = scheme.digest (second.preimage bump') := by
  intro scheme first second
  have apart : first ≠ second := by decide
  have one : first.address scheme = .ok (Key.fill 90) := by decide +kernel
  have other : second.address scheme = .ok (Key.fill 90) := by decide +kernel
  obtain ⟨bump, bump', _, _, differ, hash, hash'⟩ :=
    shared_address_collides scheme first second _ apart one other
  exact ⟨apart, one.trans other.symm, bump, bump', differ, hash.trans hash'.symm⟩

end DerivedAccount
end BridgeClient
