set_option autoImplicit false

/-!
Sets of characters as rising ranges of code points. A look-up may end at the first range that begins
beyond the code point: in ranges that rise nothing is lost by that.
-/
namespace BridgeClient

namespace CodeRanges

/-- The ranges, each given by its ends, do not touch, and they rise. -/
def areApart : List (Nat × Nat) → Bool
  | first :: second :: rest =>
      first.1 ≤ first.2 && first.2 + 1 < second.1 && areApart (second :: rest)
  | _ => true

end CodeRanges

/-- First and last code points of ranges that rise. -/
structure CodeRanges where
  ranges : List (Nat × Nat)
  apart : CodeRanges.areApart ranges = true

namespace CodeRanges

/-- Whether one of some rising ranges holds the code point. -/
def search : List (Nat × Nat) → Nat → Bool
  | [], _ => false
  | (first, last) :: rest, n =>
      if n < first then false else if n ≤ last then true else search rest n

/-- Whether one of the ranges holds the code point. -/
def contains (set : CodeRanges) (n : Nat) : Bool := search set.ranges n

theorem areApart_of_cons {first : Nat × Nat} {rest : List (Nat × Nat)}
    (apart : areApart (first :: rest) = true) : areApart rest = true := by
  cases rest with
  | nil => rfl
  | cons second rest =>
      simp only [areApart, Bool.and_eq_true] at apart
      exact apart.2

/-- Below the first of ranges that rise there is none. -/
theorem lt_of_mem {first range : Nat × Nat} {rest : List (Nat × Nat)} {n : Nat}
    (apart : areApart (first :: rest) = true) (below : n < first.1)
    (inside : range ∈ first :: rest) : n < range.1 := by
  induction rest generalizing first with
  | nil =>
      cases List.mem_singleton.mp inside
      exact below
  | cons second rest ih =>
      rcases List.mem_cons.mp inside with rfl | later
      · exact below
      · simp only [areApart, Bool.and_eq_true, decide_eq_true_eq] at apart
        exact ih apart.2 (by omega) later

theorem search_iff {ranges : List (Nat × Nat)} (apart : areApart ranges = true) {n : Nat} :
    search ranges n = true ↔ ∃ range ∈ ranges, range.1 ≤ n ∧ n ≤ range.2 := by
  induction ranges with
  | nil => simp [search]
  | cons first rest ih =>
      rw [search]
      by_cases below : n < first.1
      · rw [if_pos below]
        refine iff_of_false Bool.false_ne_true ?_
        intro ⟨range, inside, reached, _⟩
        have beyond := lt_of_mem apart below inside
        omega
      · rw [if_neg below]
        simp only [List.mem_cons, exists_eq_or_imp, ← ih (areApart_of_cons apart)]
        by_cases within : n ≤ first.2
        · simp [within, Nat.le_of_not_lt below]
        · simp [within]

/-- The early end of the look-up loses nothing. -/
theorem contains_iff {set : CodeRanges} {n : Nat} :
    set.contains n = true ↔ ∃ range ∈ set.ranges, range.1 ≤ n ∧ n ≤ range.2 :=
  search_iff set.apart

end CodeRanges
end BridgeClient
