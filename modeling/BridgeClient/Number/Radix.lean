set_option autoImplicit false

/-! The digits of a number in any base, and the number that a digit string stands for. -/
namespace BridgeClient.Radix

/-- Least significant digit first, without zeros at the end; zero has no digits. -/
def digits (base n : Nat) : List Nat :=
  if _h : base < 2 ∨ n = 0 then [] else n % base :: digits base (n / base)
termination_by n
decreasing_by
  exact Nat.div_lt_self (by omega) (by omega)

/-- The number with these digits, least significant first. -/
def ofDigits (base : Nat) : List Nat → Nat
  | [] => 0
  | d :: ds => d + base * ofDigits base ds

@[simp] theorem digits_zero (base : Nat) : digits base 0 = [] := by
  unfold digits; simp

theorem digits_of_pos {base n : Nat} (hb : 2 ≤ base) (hn : 0 < n) :
    digits base n = n % base :: digits base (n / base) := by
  rw [digits, dif_neg (by omega)]

theorem ofDigits_digits {base : Nat} (hb : 2 ≤ base) (n : Nat) :
    ofDigits base (digits base n) = n := by
  induction n using Nat.strongRecOn with
  | _ n ih =>
      by_cases hn : n = 0
      · subst hn; simp [ofDigits]
      · rw [digits_of_pos hb (by omega)]
        have hlt : n / base < n := Nat.div_lt_self (by omega) (by omega)
        rw [ofDigits, ih _ hlt]
        exact Nat.mod_add_div n base

theorem digits_lt {base : Nat} (hb : 2 ≤ base) (n : Nat) : ∀ d ∈ digits base n, d < base := by
  induction n using Nat.strongRecOn with
  | _ n ih =>
      by_cases hn : n = 0
      · subst hn; simp
      · rw [digits_of_pos hb (by omega)]
        have hlt : n / base < n := Nat.div_lt_self (by omega) (by omega)
        intro d hd
        rcases List.mem_cons.1 hd with rfl | hd
        · exact Nat.mod_lt _ (by omega)
        · exact ih _ hlt d hd

/-- Digits without a zero at the end are the digits of their number. -/
theorem digits_ofDigits {base : Nat} (hb : 2 ≤ base) (ds : List Nat) (hd : ∀ d ∈ ds, d < base)
    (hz : ds.getLast? ≠ some 0) : digits base (ofDigits base ds) = ds := by
  induction ds with
  | nil => simp [ofDigits]
  | cons d ds ih =>
      have hdb : d < base := hd d (by simp)
      have hpos : 0 < d + base * ofDigits base ds := by
        cases ds with
        | nil =>
            simp at hz
            omega
        | cons e es =>
            have hne : ofDigits base (e :: es) ≠ 0 := by
              intro h0
              have hl : (e :: es).getLast? ≠ some 0 := by
                simpa [List.getLast?_cons_cons] using hz
              have := ih (fun x hx => hd x (by simp [hx])) hl
              rw [h0] at this
              simp at this
            have : 0 < base * ofDigits base (e :: es) := Nat.mul_pos (by omega) (by omega)
            omega
      have hm : (d + base * ofDigits base ds) % base = d := by
        rw [Nat.add_mul_mod_self_left]; exact Nat.mod_eq_of_lt hdb
      have hq : (d + base * ofDigits base ds) / base = ofDigits base ds := by
        rw [Nat.add_mul_div_left _ _ (by omega), Nat.div_eq_of_lt hdb, Nat.zero_add]
      rw [ofDigits, digits_of_pos hb hpos, hm, hq]
      congr 1
      cases ds with
      | nil => simp [ofDigits]
      | cons e es =>
          exact ih (fun x hx => hd x (by simp [hx])) (by simpa [List.getLast?_cons_cons] using hz)

/-- The decimal digits of a number as characters, most significant first; zero is `0`. -/
def decimal (n : Nat) : List Char :=
  if n = 0 then ['0'] else ((digits 10 n).map Nat.digitChar).reverse

end BridgeClient.Radix
