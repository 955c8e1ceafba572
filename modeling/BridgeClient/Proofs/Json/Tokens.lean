import BridgeClient.Proofs.Json.Grammar
import Mathlib.Data.List.TakeWhile

set_option autoImplicit false

/-! The reader on blanks, strings and numbers. It takes what the grammar spells, nothing else. -/
namespace BridgeClient.Json

namespace Reader

variable {cs rest : List Char}

/-! ## Blanks -/

theorem isBlank_iff {c : Char} : isBlank c = true ↔ c = ' ' ∨ c = '\t' ∨ c = '\n' ∨ c = '\r' := by
  simp [isBlank, or_assoc]

theorem blank_append {before after : List Char} (left : Blank before) (right : Blank after) :
    Blank (before ++ after) := by
  intro c inside
  rcases List.mem_append.mp inside with inside | inside
  · exact left c inside
  · exact right c inside

theorem skipBlank_append {before : List Char} (blank : Blank before) :
    skipBlank (before ++ cs) = skipBlank cs := by
  apply List.dropWhile_append_of_pos
  intro c inside
  exact isBlank_iff.mpr (blank c inside)

theorem skipBlank_cons {c : Char} (visible : isBlank c = false) :
    skipBlank (c :: cs) = c :: cs := by
  simp [skipBlank, visible]

/-- What is skipped is blank. -/
theorem exists_eq_append_skipBlank (cs : List Char) :
    ∃ before, cs = before ++ skipBlank cs ∧ Blank before := by
  refine ⟨cs.takeWhile isBlank, List.takeWhile_append_dropWhile.symm, ?_⟩
  intro c inside
  exact isBlank_iff.mp (List.mem_takeWhile_imp inside)

theorem skipBlank_skipBlank (cs : List Char) : skipBlank (skipBlank cs) = skipBlank cs := by
  obtain ⟨before, whole, blank⟩ := exists_eq_append_skipBlank cs
  rw [← skipBlank_append blank, ← whole]

/-! ## Strings -/

theorem pieces_plain {c : Char} (visible : 0x20 ≤ c.toNat) (inside : c ≠ '"') (bare : c ≠ '\\') :
    pieces (c :: cs) =
      (pieces cs).map fun read => (.plain (UInt8.ofNat c.toNat) :: read.1, read.2) := by
  have printed : ¬ c.toNat < 0x20 := by omega
  simp only [pieces, bare, printed, false_implies, implies_true]
  cases pieces cs <;> rfl

theorem pieces_escape {letter c : Char} (short : shortEscape? letter = some c) :
    pieces ('\\' :: letter :: cs) = (pieces cs).map fun read => (.escape c :: read.1, read.2) := by
  have other : letter ≠ 'u' := by
    rintro rfl
    cases short
  simp only [pieces, other, short, false_implies, implies_true]
  cases pieces cs <;> rfl

theorem pieces_of_spelled {spelled : List Char} {ps : List Piece} (right : PiecesSpelled ps spelled)
    (rest : List Char) : pieces (spelled ++ '"' :: rest) = some (ps, rest) := by
  induction right with
  | nil => simp [pieces]
  | cons head tail ih =>
      rw [List.append_assoc]
      cases head with
      | plain visible inside bare =>
          rw [List.singleton_append, pieces_plain visible inside bare, ih]
          rfl
      | escape short =>
          rw [List.cons_append, List.singleton_append, pieces_escape short, ih]
          rfl
      | unit first second third fourth =>
          simp [pieces, first, second, third, fourth, ih]

theorem spelled_of_pieces {ps : List Piece} (read : pieces cs = some (ps, rest)) :
    ∃ spelled, cs = spelled ++ '"' :: rest ∧ PiecesSpelled ps spelled := by
  fun_induction pieces cs generalizing ps with
  | case1 => cases read
  | case2 => 
    cases read
    exact ⟨[], rfl, .nil⟩
  | case3 w x y z others ih =>
    simp only [Option.bind_eq_bind, Option.bind_eq_some_iff] at read
    obtain ⟨a, first, b, second, c, third, d, fourth, ⟨tail, _⟩, read, same⟩ := read
    cases same
    obtain ⟨spelled, rfl, right⟩ := ih read
    exact ⟨_, rfl, .cons (.unit first second third fourth) right⟩
  | case4 letter others other ih =>
    simp only [Option.bind_eq_bind, Option.bind_eq_some_iff] at read
    obtain ⟨c, short, ⟨tail, _⟩, read, same⟩ := read
    cases same
    obtain ⟨spelled, rfl, right⟩ := ih read
    exact ⟨_, rfl, .cons (.escape short) right⟩
  | case5 => cases read
  | case6 c others inside bare bare2 visible ih => 
    simp only [Option.bind_eq_bind, Option.bind_eq_some_iff] at read
    obtain ⟨⟨tail, _⟩, read, same⟩ := read
    cases same
    obtain ⟨spelled, rfl, right⟩ := ih read
    simp at visible
    exact ⟨_, rfl, .cons (.plain (by omega) inside (by simp_all)) right⟩

theorem text_of_spelled {name : Text} {key : List Char} (spelled : name.Spelled key)
    (rest : List Char) :
    ∃ inner, key ++ rest = '"' :: inner ∧ text inner = some (name, rest) := by
  obtain @⟨ps, inner, right⟩ := spelled
  refine ⟨inner ++ '"' :: rest, by simp, ?_⟩
  rw [text, pieces_of_spelled right]
  rfl

theorem spelled_of_text {name : Text} (read : text cs = some (name, rest)) :
    ∃ key, '"' :: cs = key ++ rest ∧ name.Spelled key := by
  obtain ⟨⟨ps, _⟩, read, same⟩ := Option.map_eq_some_iff.mp read
  cases same
  obtain ⟨inner, rfl, right⟩ := spelled_of_pieces read
  exact ⟨_, by simp, .quoted right⟩

/-! ## Numbers -/

/-- A text does not go on with one of some characters. -/
def Stops (among : Char → Bool) (rest : List Char) : Prop := ∀ c ∈ rest.head?, among c = false

theorem Stops.mono {among fewer : Char → Bool} (stops : Stops among rest)
    (less : ∀ c, fewer c = true → among c = true) : Stops fewer rest := by
  intro c inside
  have outside := stops c inside
  rw [Bool.eq_false_iff] at outside ⊢
  exact fun member => outside (less c member)

theorem dropWhile_of_stops {among : Char → Bool} (stops : Stops among rest) :
    rest.dropWhile among = rest := by
  cases rest with
  | nil => rfl
  | cons c rest => simp [stops c rfl]

theorem takeWhile_of_stops {among : Char → Bool} (stops : Stops among rest) :
    rest.takeWhile among = [] := by
  cases rest with
  | nil => rfl
  | cons c rest => simp [stops c rfl]

theorem someDigits_of_digits {values : List Nat} (spelled : Digits values cs)
    (stops : Stops Char.isDigit rest) : someDigits (cs ++ rest) = some (values, rest) := by
  obtain ⟨nonempty, decimal, rfl⟩ := spelled
  have read : digits (cs ++ rest) = (cs.map digitValue, rest) := by
    rw [digits, List.takeWhile_append_of_pos decimal, List.dropWhile_append_of_pos decimal,
      takeWhile_of_stops stops, dropWhile_of_stops stops, List.append_nil]
  have filled : cs.map digitValue ≠ [] := by simpa using nonempty
  rw [someDigits, read]
  split
  · rename_i empty
    exact absurd (congrArg Prod.fst empty) filled
  · rfl

theorem digits_of_someDigits {values : List Nat} (read : someDigits cs = some (values, rest)) :
    ∃ spelled, cs = spelled ++ rest ∧ Digits values spelled := by
  unfold someDigits digits at read
  split at read
  · cases read
  · rename_i filled
    cases read
    refine ⟨cs.takeWhile Char.isDigit, List.takeWhile_append_dropWhile.symm, ?_, ?_, rfl⟩
    · intro empty
      exact filled _ (by rw [empty]; rfl)
    · intro c inside
      exact List.mem_takeWhile_imp inside

theorem whole_of_spelled {value : Nat} (spelled : WholeSpelled value cs)
    (stops : Stops Char.isDigit rest) : whole (cs ++ rest) = some (value, rest) := by
  cases spelled with
  | zero => rfl
  | leading run first =>
      unfold whole
      split
      · rename_i others heq
        cases cs with
        | nil => exact absurd rfl run.nonempty
        | cons c cs =>
            cases heq
            exact absurd rfl first
      · rw [someDigits_of_digits run stops]
        rfl

theorem spelled_of_whole {value : Nat} (read : whole cs = some (value, rest)) :
    ∃ spelled, cs = spelled ++ rest ∧ WholeSpelled value spelled := by
  unfold whole at read
  split at read
  · cases read
    exact ⟨['0'], rfl, .zero⟩
  · rename_i other
    obtain ⟨⟨values, _⟩, read, same⟩ := Option.map_eq_some_iff.mp read
    cases same
    obtain ⟨spelled, rfl, run⟩ := digits_of_someDigits read
    refine ⟨spelled, rfl, .leading run ?_⟩
    intro first
    obtain ⟨others, rfl⟩ := List.head?_eq_some_iff.mp first
    exact other _ rfl

theorem fraction_of_spelled {values : List Nat} (spelled : FractionSpelled values cs)
    (stops : Stops (fun c => c.isDigit || c == '.') rest) :
    fraction (cs ++ rest) = some (values, rest) := by
  cases spelled with
  | none =>
      unfold fraction
      split
      · rename_i heq
        rw [List.nil_append] at heq
        subst heq
        exact absurd (stops '.' rfl) (by decide)
      · rfl
  | point run =>
      exact someDigits_of_digits run (stops.mono fun c digit => by simp [digit])

theorem spelled_of_fraction {values : List Nat} (read : fraction cs = some (values, rest)) :
    ∃ spelled, cs = spelled ++ rest ∧ FractionSpelled values spelled := by
  unfold fraction at read
  split at read
  · obtain ⟨spelled, rfl, run⟩ := digits_of_someDigits read
    exact ⟨'.' :: spelled, rfl, .point run⟩
  · cases read
    exact ⟨[], rfl, .none⟩

/-- The characters that a number may go on with. -/
def isNumeral (c : Char) : Bool := c.isDigit || c == '.' || c == 'e' || c == 'E'

theorem ne_of_isDigit {c d : Char} (digit : c.isDigit = true) (other : d.isDigit = false) :
    c ≠ d := by
  rintro rfl
  rw [digit] at other
  cases other

/-- The characters are the sign that is taken off them, and the rest. -/
theorem sign_spec (cs : List Char) :
    cs = (sign cs).1.toList ++ (sign cs).2 ∧ ∀ c ∈ (sign cs).1, c = '+' ∨ c = '-' := by
  unfold sign
  split <;> simp

theorem sign_of_digit {mark : Option Char} {c : Char} (signed : ∀ s ∈ mark, s = '+' ∨ s = '-')
    (digit : c.isDigit = true) : sign (mark.toList ++ c :: cs) = (mark, c :: cs) := by
  cases mark with
  | none =>
      have noPlus : c ≠ '+' := ne_of_isDigit digit (by decide)
      have noMinus : c ≠ '-' := ne_of_isDigit digit (by decide)
      simp [sign, noPlus, noMinus]
  | some s => rcases signed s rfl with rfl | rfl <;> rfl

theorem exponent_of_spelled {value : Option Exponent} (spelled : ExponentSpelled value cs)
    (stops : Stops isNumeral rest) : exponent (cs ++ rest) = some (value, rest) := by
  have apart : Stops Char.isDigit rest := stops.mono fun c digit => by simp [isNumeral, digit]
  cases spelled with
  | none =>
      cases rest with
      | nil => rfl
      | cons c rest =>
          have other := stops c rfl
          simp [isNumeral] at other
          simp [exponent, other]
  | @power letter mark values digits marked signed run =>
      have read := someDigits_of_digits run apart
      obtain ⟨first, others, rfl⟩ := List.exists_cons_of_ne_nil run.nonempty
      have decimal : first.isDigit = true := run.decimal first (List.mem_cons_self ..)
      have lettered : (letter = 'e' || letter = 'E') = true := by simpa using marked
      have taken : sign (mark.toList ++ first :: (others ++ rest)) =
          (mark, first :: (others ++ rest)) := sign_of_digit signed decimal
      rw [List.cons_append] at read
      simp [exponent, lettered, taken, read]

theorem spelled_of_exponent {value : Option Exponent} (read : exponent cs = some (value, rest)) :
    ∃ spelled, cs = spelled ++ rest ∧ ExponentSpelled value spelled := by
  unfold exponent at read
  split at read
  · rename_i letter others
    by_cases lettered : (letter = 'e' || letter = 'E') = true
    · rw [if_pos lettered] at read
      obtain ⟨⟨values, _⟩, read, same⟩ := Option.map_eq_some_iff.mp read
      cases same
      obtain ⟨whole, signed⟩ := sign_spec others
      obtain ⟨digits, behind, run⟩ := digits_of_someDigits read
      refine ⟨letter :: ((sign others).1.toList ++ digits), ?_, .power ?_ signed run⟩
      · rw [List.cons_append, List.append_assoc, ← behind, ← whole]
      · simpa using lettered
    · rw [if_neg lettered] at read
      cases read
      exact ⟨[], rfl, .none⟩
  · cases read
    exact ⟨[], rfl, .none⟩

theorem stops_exponent {value : Option Exponent} (spelled : ExponentSpelled value cs)
    (stops : Stops isNumeral rest) : Stops (fun c => c.isDigit || c == '.') (cs ++ rest) := by
  cases spelled with
  | none => exact stops.mono fun c member => by simp_all [isNumeral]
  | power marked signed run =>
      rintro c first
      cases first
      rcases marked with rfl | rfl <;> decide

theorem stops_fraction {values : List Nat} (spelled : FractionSpelled values cs)
    (stops : Stops (fun c => c.isDigit || c == '.') rest) : Stops Char.isDigit (cs ++ rest) := by
  cases spelled with
  | none => exact stops.mono fun c digit => by simp [digit]
  | point run =>
      rintro c first
      cases first
      decide

/-- A number whose sign has been read. -/
def numberAfter (negative : Bool) (cs : List Char) : Option (Number × List Char) := do
  let (whole, cs) ← whole cs
  let (fraction, cs) ← fraction cs
  let (exponent, cs) ← exponent cs
  match cs with
  | c :: _ => if c.isDigit then none else pure (⟨negative, whole, fraction, exponent⟩, cs)
  | [] => pure (⟨negative, whole, fraction, exponent⟩, [])

theorem number_minus (cs : List Char) : number ('-' :: cs) = numberAfter true cs := rfl

theorem number_of_unsigned (unsigned : cs.head? ≠ some '-') :
    number cs = numberAfter false cs := by
  unfold number
  split
  rename_i negative others signed
  split at signed
  · exact absurd rfl unsigned
  · cases signed
    rfl

theorem numberAfter_eq_some_iff {negative : Bool} {value : Number} :
    numberAfter negative cs = some (value, rest) ↔ value.negative = negative ∧
      ∃ front middle, whole cs = some (value.whole, front) ∧
        fraction front = some (value.fraction, middle) ∧
        exponent middle = some (value.exponent, rest) ∧ Stops Char.isDigit rest := by
  simp only [numberAfter, Option.bind_eq_bind, Option.bind_eq_some_iff]
  constructor
  · rintro ⟨⟨integer, front⟩, readWhole, ⟨fractional, middle⟩, readFraction, ⟨power, back⟩,
      readExponent, read⟩
    cases back with
    | nil =>
        cases read
        exact ⟨rfl, front, middle, readWhole, readFraction, readExponent, by simp [Stops]⟩
    | cons c back =>
        simp only [Option.ite_none_left_eq_some] at read
        obtain ⟨ends, same⟩ := read
        cases same
        have stops : Stops Char.isDigit (c :: back) := by simpa [Stops] using ends
        exact ⟨rfl, front, middle, readWhole, readFraction, readExponent, stops⟩
  · rintro ⟨rfl, front, middle, readWhole, readFraction, readExponent, stops⟩
    refine ⟨_, readWhole, _, readFraction, _, readExponent, ?_⟩
    cases rest with
    | nil => rfl
    | cons c rest =>
        have ends : ¬ c.isDigit = true := by simpa using stops c rfl
        exact if_neg ends

theorem exists_digit_of_whole {value : Nat} (spelled : WholeSpelled value cs) :
    ∃ c others, cs = c :: others ∧ c.isDigit = true := by
  cases spelled with
  | zero => exact ⟨'0', [], rfl, rfl⟩
  | leading run first =>
      obtain ⟨digit, digits, rfl⟩ := List.exists_cons_of_ne_nil run.nonempty
      exact ⟨digit, digits, rfl, run.decimal digit (List.mem_cons_self ..)⟩

theorem number_of_spelled {value : Number} (spelled : value.Spelled cs)
    (stops : Stops isNumeral rest) : number (cs ++ rest) = some (value, rest) := by
  obtain @⟨negative, integer, fractional, power, front, middle, back, first, second, third⟩ :=
    spelled
  have afterFraction := stops_exponent third stops
  have read : numberAfter negative (front ++ (middle ++ (back ++ rest))) =
      some (⟨negative, integer, fractional, power⟩, rest) :=
    numberAfter_eq_some_iff.mpr ⟨rfl, _, _,
      whole_of_spelled first (stops_fraction second afterFraction),
      fraction_of_spelled second afterFraction, exponent_of_spelled third stops,
      stops.mono fun c digit => by simp [isNumeral, digit]⟩
  simp only [List.append_assoc]
  cases negative with
  | true => exact (number_minus _).trans read
  | false =>
      rw [if_neg Bool.false_ne_true, List.nil_append, number_of_unsigned, read]
      obtain ⟨c, others, rfl, digit⟩ := exists_digit_of_whole first
      have noMinus : c ≠ '-' := ne_of_isDigit digit (by decide)
      simpa using noMinus

theorem spelled_of_numberAfter {negative : Bool} {value : Number}
    (read : numberAfter negative cs = some (value, rest)) :
    ∃ spelled, (if negative then ['-'] else []) ++ cs = spelled ++ rest ∧
      value.Spelled spelled := by
  obtain ⟨rfl, _, _, readWhole, readFraction, readExponent, _⟩ := numberAfter_eq_some_iff.mp read
  obtain ⟨front, rfl, first⟩ := spelled_of_whole readWhole
  obtain ⟨middle, rfl, second⟩ := spelled_of_fraction readFraction
  obtain ⟨back, rfl, third⟩ := spelled_of_exponent readExponent
  exact ⟨_, by simp only [List.append_assoc], .parts first second third⟩

theorem spelled_of_number {value : Number} (read : number cs = some (value, rest)) :
    ∃ spelled, cs = spelled ++ rest ∧ value.Spelled spelled := by
  by_cases minus : cs.head? = some '-'
  · obtain ⟨others, rfl⟩ := List.head?_eq_some_iff.mp minus
    have signed : numberAfter true others = some (value, rest) := read
    exact spelled_of_numberAfter signed
  · rw [number_of_unsigned minus] at read
    exact spelled_of_numberAfter read

end Reader

end BridgeClient.Json
