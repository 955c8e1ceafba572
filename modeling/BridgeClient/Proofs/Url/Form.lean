import BridgeClient.Proofs.Text.Utf8
import BridgeClient.Url.Form

set_option autoImplicit false

/-!
Pairs written into a query are read back as they were. Whatever their texts hold, the separators of
the query stand only where they were put.
-/
namespace BridgeClient

namespace Percent

theorem decode_cons {b : UInt8} (plain : b ≠ 37) (rest : Bytes) :
    decode (b :: rest) = b :: decode rest := by
  match rest with
  | [] => rfl
  | [_] => rfl
  | _ :: _ :: _ => rw [decode, if_neg plain]

/-- What a hex digit is, as a character and as a byte. -/
theorem upperDigit_spec : ∀ n < 16, (upperDigit n).toNat < 128 ∧
    hexValue? (UInt8.ofNat (upperDigit n).toNat) = some n := by decide

theorem decode_escape {n m : Nat} (high : n < 16) (low : m < 16) (rest : Bytes) :
    decode (37 :: UInt8.ofNat (upperDigit n).toNat :: UInt8.ofNat (upperDigit m).toNat :: rest) =
      UInt8.ofNat (n * 16 + m) :: decode rest := by
  rw [decode, if_pos rfl, (upperDigit_spec n high).2, (upperDigit_spec m low).2]

end Percent

namespace Form

/-- The byte of an ASCII character. -/
def byteOf (c : Char) : UInt8 := UInt8.ofNat c.toNat

/-- The bytes of a part of a pair as it is written. -/
def written (bytes : Bytes) : Bytes := (encodeBytes bytes).map byteOf

/-- A byte is written in ASCII, and without the separators of a query. -/
theorem encodeByte_spec (b : UInt8) :
    ∀ c ∈ encodeByte b, c.toNat < 128 ∧ byteOf c ≠ 38 ∧ byteOf c ≠ 61 := by
  have every : ((List.range 256).all fun n => (encodeByte (UInt8.ofNat n)).all fun c =>
      c.toNat < 128 && byteOf c ≠ 38 && byteOf c ≠ 61) = true := by decide +kernel
  simp only [List.all_eq_true, List.mem_range, Bool.and_eq_true, decide_eq_true_eq] at every
  intro c inside
  rw [← UInt8.ofNat_toNat (x := b)] at inside
  obtain ⟨⟨ascii, first⟩, second⟩ := every b.toNat b.toNat_lt c inside
  exact ⟨ascii, first, second⟩

/-! ## One part of a pair -/

theorem decodePart_cons {b : UInt8} (noEscape : b ≠ 37) (noSpace : b ≠ 43) (rest : Bytes) :
    decodePart (b :: rest) = b :: decodePart rest := by
  rw [decodePart, List.map_cons, if_neg noSpace, Percent.decode_cons noEscape, decodePart]

theorem decodePart_plus (rest : Bytes) : decodePart (43 :: rest) = 32 :: decodePart rest := by
  rw [decodePart, List.map_cons, if_pos rfl, Percent.decode_cons (by decide), decodePart]

theorem decodePart_escape (b : UInt8) (rest : Bytes) :
    decodePart ((Percent.encodeByte b).map byteOf ++ rest) = b :: decodePart rest := by
  have high : b.toNat / 16 < 16 := by
    have := b.toNat_lt
    omega
  have low : b.toNat % 16 < 16 := Nat.mod_lt _ (by decide)
  have kept : ∀ n < 16, UInt8.ofNat (Percent.upperDigit n).toNat ≠ 43 := by decide
  have whole : b.toNat / 16 * 16 + b.toNat % 16 = b.toNat := by omega
  simp only [Percent.encodeByte, List.map_cons, List.map_nil, List.cons_append, List.nil_append,
    byteOf, decodePart]
  rw [if_neg (by decide), if_neg (kept _ high), if_neg (kept _ low)]
  refine (Percent.decode_escape high low _).trans ?_
  rw [whole, UInt8.ofNat_toNat]

theorem decodePart_encodeByte (b : UInt8) (rest : Bytes) :
    decodePart ((encodeByte b).map byteOf ++ rest) = b :: decodePart rest := by
  unfold encodeByte
  split
  · rename_i free
    have noEscape : b ≠ 37 := by
      rintro rfl
      exact absurd free (by decide)
    have noSpace : b ≠ 43 := by
      rintro rfl
      exact absurd free (by decide)
    have same : byteOf (Char.ofNat b.toNat) = b := by
      rw [byteOf, Bytes.toNat_char, UInt8.ofNat_toNat]
    rw [List.map_singleton, same, List.singleton_append, decodePart_cons noEscape noSpace]
  · split
    · rename_i blank
      rw [blank]
      exact decodePart_plus rest
    · exact decodePart_escape b rest

theorem decodePart_written (bytes : Bytes) : decodePart (written bytes) = bytes := by
  induction bytes with
  | nil => rfl
  | cons b rest ih =>
      rw [written, encodeBytes, List.flatMap_cons, List.map_append, decodePart_encodeByte]
      exact congrArg (b :: ·) ih

theorem mem_written {bytes : Bytes} {letter : UInt8} (inside : letter ∈ written bytes) :
    letter ≠ 38 ∧ letter ≠ 61 := by
  obtain ⟨c, among, rfl⟩ := List.mem_map.mp inside
  obtain ⟨b, _, among⟩ := List.mem_flatMap.mp among
  exact (encodeByte_spec b c among).2

/-! ## Pairs -/

theorem map_byteOf_encodePair (pair : String × String) :
    (encodePair pair).map byteOf =
      written (Bytes.ofText pair.1) ++ 61 :: written (Bytes.ofText pair.2) := by
  rw [encodePair, List.map_append, List.map_cons]
  rfl

theorem decodePair_encodePair (pair : String × String) :
    decodePair ((encodePair pair).map byteOf) = (Bytes.ofText pair.1, Bytes.ofText pair.2) := by
  have name : ∀ letter ∈ written (Bytes.ofText pair.1), (letter ≠ 61 : Bool) = true := by
    intro letter inside
    simpa using (mem_written inside).2
  rw [map_byteOf_encodePair, decodePair, List.takeWhile_append_of_pos name,
    List.dropWhile_append_of_pos name]
  simp [decodePart_written]

theorem mem_encodePair {pair : String × String} {letter : UInt8}
    (inside : letter ∈ (encodePair pair).map byteOf) : letter ≠ 38 := by
  rw [map_byteOf_encodePair] at inside
  rcases List.mem_append.mp inside with inside | inside
  · exact (mem_written inside).1
  · rcases List.mem_cons.mp inside with rfl | inside
    · decide
    · exact (mem_written inside).1

theorem encodePair_ne_nil (pair : String × String) : encodePair pair ≠ [] := by
  simp [encodePair]

/-! ## Queries -/

theorem split_of_notMem {piece : Bytes} {separator : UInt8} (apart : ∀ b ∈ piece, b ≠ separator) :
    split separator piece = [piece] := by
  induction piece with
  | nil => rfl
  | cons b piece ih =>
      obtain ⟨first, others⟩ := List.forall_mem_cons.mp apart
      rw [split, if_neg first, ih others]

theorem split_append {piece : Bytes} {separator : UInt8} (apart : ∀ b ∈ piece, b ≠ separator)
    (rest : Bytes) :
    split separator (piece ++ separator :: rest) = piece :: split separator rest := by
  induction piece with
  | nil => rw [List.nil_append, split, if_pos rfl]
  | cons b piece ih =>
      obtain ⟨first, others⟩ := List.forall_mem_cons.mp apart
      rw [List.cons_append, split, if_neg first, ih others]

/-- Behind a query that holds something, pairs stand as in a query of their own. -/
theorem append_of_ne_nil {pairs : List (String × String)} (some : pairs ≠ []) {query : List Char}
    (filled : query ≠ []) : append query pairs = query ++ '&' :: append [] pairs := by
  induction pairs generalizing query with
  | nil => exact absurd rfl some
  | cons pair others ih =>
      rw [append, append, if_neg filled, if_pos rfl, List.nil_append, List.append_assoc,
        List.singleton_append]
      by_cases last : others = []
      · rw [last, append, append]
      · rw [ih last (by simp [filled]), ih last (encodePair_ne_nil pair), List.append_assoc,
          List.cons_append]

theorem append_cons (pair : String × String) {others : List (String × String)}
    (more : others ≠ []) :
    append [] (pair :: others) = encodePair pair ++ '&' :: append [] others := by
  rw [append, if_pos rfl, List.nil_append, append_of_ne_nil more (encodePair_ne_nil pair)]

theorem append_singleton (pair : String × String) : append [] [pair] = encodePair pair := by
  rw [append, if_pos rfl, List.nil_append, append]

theorem decodeBytes_append (pairs : List (String × String)) :
    decodeBytes ((append [] pairs).map byteOf) =
      pairs.map fun pair => (Bytes.ofText pair.1, Bytes.ofText pair.2) := by
  induction pairs with
  | nil => rfl
  | cons pair others ih =>
      have apart : ∀ letter ∈ (encodePair pair).map byteOf, letter ≠ 38 := fun _ => mem_encodePair
      have filled : (encodePair pair).map byteOf ≠ [] := by simp [encodePair]
      rw [List.map_cons, ← ih, ← decodePair_encodePair, decodeBytes, decodeBytes]
      by_cases last : others = []
      · subst last
        rw [append_singleton, append, List.map_nil, split_of_notMem apart, List.filter_cons,
          if_pos (by simpa using filled)]
        rfl
      · have separated : ((append [] (pair :: others)).map byteOf) =
            (encodePair pair).map byteOf ++ 38 :: (append [] others).map byteOf := by
          rw [append_cons pair last, List.map_append, List.map_cons]
          rfl
        rw [separated, split_append apart, List.filter_cons, if_pos (by simpa using filled),
          List.map_cons]

theorem ascii_encodePair {pair : String × String} {c : Char} (inside : c ∈ encodePair pair) :
    c.toNat < 128 := by
  have part {bytes : Bytes} (inside : c ∈ encodeBytes bytes) : c.toNat < 128 := by
    obtain ⟨b, _, among⟩ := List.mem_flatMap.mp inside
    exact (encodeByte_spec b c among).1
  rcases List.mem_append.mp inside with inside | inside
  · exact part inside
  · rcases List.mem_cons.mp inside with rfl | inside
    · decide
    · exact part inside

theorem ascii_append {pairs : List (String × String)} {c : Char} (inside : c ∈ append [] pairs) :
    c.toNat < 128 := by
  induction pairs with
  | nil => cases inside
  | cons pair others ih =>
      by_cases last : others = []
      · rw [last, append_singleton] at inside
        exact ascii_encodePair inside
      · rw [append_cons pair last] at inside
        rcases List.mem_append.mp inside with inside | inside
        · exact ascii_encodePair inside
        · rcases List.mem_cons.mp inside with rfl | inside
          · decide
          · exact ih inside

/-- The pairs of a query are those that were written into it, each with its own texts. -/
theorem decode?_append (pairs : List (String × String)) :
    decode? (String.ofList (append [] pairs)) = some pairs := by
  have bytes : Bytes.ofText (String.ofList (append [] pairs)) = (append [] pairs).map byteOf :=
    Bytes.ofText_ofList_of_ascii fun _ => ascii_append
  rw [decode?, bytes, decodeBytes_append]
  clear bytes
  induction pairs with
  | nil => rfl
  | cons pair others ih =>
      simp only [List.map_cons, List.mapM_cons, Bytes.fromUTF8?_ofText]
      rw [ih]
      rfl

end Form
end BridgeClient
