import BridgeClient.Proofs.Json.Tokens

set_option autoImplicit false

/-! The reader takes some bytes for a value exactly if the grammar says that they spell it. -/
namespace BridgeClient.Json

namespace Reader

variable {cs rest : List Char} {steps : Nat}

/-! ## The reader in parts -/

theorem separated_eq_some_iff {α : Type} {close : Char} {first : Option (α × List Char)}
    {others : List Char → Option (List α × List Char)} {items : List α} (distinct : close ≠ ',') :
    separated close first others = some (items, rest) ↔
      (∃ item, first = some (item, close :: rest) ∧ items = [item]) ∨
        ∃ item more after, first = some (item, ',' :: after) ∧ others after = some (more, rest) ∧
          items = item :: more := by
  unfold separated
  split
  · rename_i item after
    simp only [Option.map_eq_some_iff]
    constructor
    · rintro ⟨⟨more, _⟩, read, same⟩
      cases same
      exact Or.inr ⟨item, more, after, rfl, read, rfl⟩
    · rintro (⟨_, same, _⟩ | ⟨_, more, _, same, read, rfl⟩)
      · cases same
        exact absurd rfl distinct
      · cases same
        exact ⟨_, read, rfl⟩
  · rename_i item c after other
    constructor
    · intro read
      rw [Option.ite_none_right_eq_some] at read
      obtain ⟨rfl, same⟩ := read
      cases same
      exact Or.inl ⟨item, rfl, rfl⟩
    · rintro (⟨_, same, rfl⟩ | ⟨_, _, _, same, _⟩)
      · cases same
        exact if_pos rfl
      · cases same
        exact absurd rfl other
  · rename_i noComma noOther
    refine iff_of_false (by simp) ?_
    rintro (⟨_, same, _⟩ | ⟨_, _, _, same, _⟩)
    · exact noOther _ _ _ same
    · exact noOther _ _ _ same

theorem value_skipBlank (steps : Nat) (cs : List Char) :
    value steps (skipBlank cs) = value steps cs := by
  cases steps with
  | zero => rfl
  | succ steps => rw [value, value, skipBlank_skipBlank]

theorem elements_skipBlank (steps : Nat) (cs : List Char) :
    elements steps (skipBlank cs) = elements steps cs := by
  cases steps with
  | zero => rfl
  | succ steps => rw [elements, elements, padded, padded, value_skipBlank]

theorem members_skipBlank (steps : Nat) (cs : List Char) :
    members steps (skipBlank cs) = members steps cs := by
  cases steps with
  | zero => rfl
  | succ steps => rw [members, members, member, member, skipBlank_skipBlank]

/-! ## What is read is spelled -/

/-- What the reader takes within so many steps is spelled by the characters it consumes. -/
structure Sound (steps : Nat) : Prop where
  value : ∀ {cs rest : List Char} {json : Json}, value steps cs = some (json, rest) →
    ∃ before spelled, cs = before ++ (spelled ++ rest) ∧ Blank before ∧
      (Phrase.value json).Spelled spelled
  elements : ∀ {cs rest : List Char} {list : List Json}, elements steps cs = some (list, rest) →
    ∃ spelled, cs = spelled ++ ']' :: rest ∧ (Phrase.elements list).Spelled spelled
  members : ∀ {cs rest : List Char} {list : List (Text × Json)},
    members steps cs = some (list, rest) →
    ∃ spelled, cs = spelled ++ '\x7d' :: rest ∧ (Phrase.members list).Spelled spelled

namespace Sound

theorem padded {json : Json} (sound : Sound steps)
    (read : Reader.padded (Reader.value steps) cs = some (json, rest)) :
    ∃ spelled, cs = spelled ++ rest ∧ (Phrase.padded json).Spelled spelled := by
  obtain ⟨⟨_, after⟩, taken, same⟩ := Option.map_eq_some_iff.mp read
  cases same
  obtain ⟨before, spelled, rfl, left, inside⟩ := sound.value taken
  obtain ⟨blank, whole, right⟩ := exists_eq_append_skipBlank after
  refine ⟨before ++ (spelled ++ blank), ?_, .padded left inside right⟩
  rw [List.append_assoc, List.append_assoc, ← whole]

theorem member {name : Text} {json : Json} (sound : Sound steps)
    (read : Reader.member (Reader.value steps) cs = some ((name, json), rest)) :
    ∃ spelled, cs = spelled ++ rest ∧ (Phrase.member name json).Spelled spelled := by
  unfold Reader.member at read
  split at read
  · rename_i quoted found
    simp only [Option.bind_eq_bind, Option.bind_eq_some_iff] at read
    obtain ⟨⟨_, after⟩, named, read⟩ := read
    split at read
    · rename_i inner colon
      obtain ⟨⟨_, _⟩, taken, same⟩ := Option.map_eq_some_iff.mp read
      cases same
      obtain ⟨before, whole, left⟩ := exists_eq_append_skipBlank cs
      obtain ⟨key, spelledKey, named⟩ := spelled_of_text named
      obtain ⟨between, middle, apart⟩ := exists_eq_append_skipBlank after
      obtain ⟨spelled, rfl, inside⟩ := sound.padded taken
      refine ⟨before ++ (key ++ (between ++ ':' :: spelled)), ?_, .member left named apart inside⟩
      rw [found, spelledKey, middle, colon] at whole
      simp [whole]
    · cases read
  · cases read

theorem elements_succ {list : List Json} (sound : Sound steps)
    (read : Reader.elements (steps + 1) cs = some (list, rest)) :
    ∃ spelled, cs = spelled ++ ']' :: rest ∧ (Phrase.elements list).Spelled spelled := by
  rw [Reader.elements, separated_eq_some_iff (by decide)] at read
  rcases read with ⟨json, read, rfl⟩ | ⟨json, more, after, read, others, rfl⟩
  · obtain ⟨spelled, rfl, only⟩ := sound.padded read
    exact ⟨spelled, rfl, .oneElement only⟩
  · obtain ⟨spelled, rfl, first⟩ := sound.padded read
    obtain ⟨behind, rfl, more⟩ := sound.elements others
    exact ⟨spelled ++ ',' :: behind, by simp, .moreElements first more⟩

theorem members_succ {list : List (Text × Json)} (sound : Sound steps)
    (read : Reader.members (steps + 1) cs = some (list, rest)) :
    ∃ spelled, cs = spelled ++ '\x7d' :: rest ∧ (Phrase.members list).Spelled spelled := by
  rw [Reader.members, separated_eq_some_iff (by decide)] at read
  rcases read with ⟨⟨name, json⟩, read, rfl⟩ | ⟨⟨name, json⟩, more, after, read, others, rfl⟩
  · obtain ⟨spelled, rfl, only⟩ := sound.member read
    exact ⟨spelled, rfl, .oneMember only⟩
  · obtain ⟨spelled, rfl, first⟩ := sound.member read
    obtain ⟨behind, rfl, more⟩ := sound.members others
    exact ⟨spelled ++ ',' :: behind, by simp, .moreMembers first more⟩

theorem value_succ {json : Json} (sound : Sound steps)
    (read : Reader.value (steps + 1) cs = some (json, rest)) :
    ∃ before spelled, cs = before ++ (spelled ++ rest) ∧ Blank before ∧
      (Phrase.value json).Spelled spelled := by
  obtain ⟨before, whole, blank⟩ := exists_eq_append_skipBlank cs
  suffices ∃ spelled, skipBlank cs = spelled ++ rest ∧ (Phrase.value json).Spelled spelled by
    obtain ⟨spelled, same, right⟩ := this
    exact ⟨before, spelled, same ▸ whole, blank, right⟩
  unfold Reader.value at read
  split at read
  · rename_i heq
    cases read
    exact ⟨_, heq, .null⟩
  · rename_i heq
    cases read
    exact ⟨_, heq, .true⟩
  · rename_i heq
    cases read
    exact ⟨_, heq, .false⟩
  · rename_i heq
    obtain ⟨⟨text, _⟩, read, same⟩ := Option.map_eq_some_iff.mp read
    cases same
    obtain ⟨key, spelled, quoted⟩ := spelled_of_text read
    exact ⟨key, heq.trans spelled, .string quoted⟩
  · rename_i inner bracket
    obtain ⟨blank, empty, nothing⟩ := exists_eq_append_skipBlank inner
    split at read
    · rename_i closed
      cases read
      rw [closed] at empty
      exact ⟨'[' :: (blank ++ [']']), by simp [bracket, empty], .emptyArray nothing⟩
    · obtain ⟨⟨list, _⟩, taken, same⟩ := Option.map_eq_some_iff.mp read
      cases same
      rw [elements_skipBlank] at taken
      obtain ⟨spelled, rfl, inside⟩ := sound.elements taken
      exact ⟨'[' :: (spelled ++ [']']), by simp [bracket], .array inside⟩
  · rename_i inner brace
    obtain ⟨blank, empty, nothing⟩ := exists_eq_append_skipBlank inner
    split at read
    · rename_i closed
      cases read
      rw [closed] at empty
      exact ⟨'\x7b' :: (blank ++ ['\x7d']), by simp [brace, empty], .emptyObject nothing⟩
    · obtain ⟨⟨list, _⟩, taken, same⟩ := Option.map_eq_some_iff.mp read
      cases same
      rw [members_skipBlank] at taken
      obtain ⟨spelled, rfl, inside⟩ := sound.members taken
      exact ⟨'\x7b' :: (spelled ++ ['\x7d']), by simp [brace], .object inside⟩
  · obtain ⟨⟨number, _⟩, read, same⟩ := Option.map_eq_some_iff.mp read
    cases same
    obtain ⟨spelled, whole, digits⟩ := spelled_of_number read
    exact ⟨spelled, whole, .number digits⟩

end Sound

theorem sound (steps : Nat) : Sound steps := by
  induction steps with
  | zero => exact ⟨by simp [value], by simp [elements], by simp [members]⟩
  | succ steps ih => exact ⟨ih.value_succ, ih.elements_succ, ih.members_succ⟩

/-! ## What is spelled is read -/

theorem visible_of_digit {c : Char} (digit : c.isDigit = true) :
    isBlank c = false ∧ c ≠ ']' ∧ c ≠ '\x7d' := by
  refine ⟨?_, ne_of_isDigit digit (by decide), ne_of_isDigit digit (by decide)⟩
  rw [Bool.eq_false_iff]
  intro blank
  rcases isBlank_iff.mp blank with rfl | rfl | rfl | rfl <;> exact absurd digit (by decide)

/-- Blanks apart, no phrase begins with a closing character. -/
theorem exists_begin {phrase : Phrase} (spelled : phrase.Spelled cs) :
    ∃ before c others, cs = before ++ c :: others ∧ Blank before ∧ isBlank c = false ∧
      c ≠ ']' ∧ c ≠ '\x7d' := by
  have nothing : Blank [] := by simp [Blank]
  induction spelled with
  | null => exact ⟨[], 'n', _, rfl, nothing, by decide⟩
  | true => exact ⟨[], 't', _, rfl, nothing, by decide⟩
  | false => exact ⟨[], 'f', _, rfl, nothing, by decide⟩
  | number digits =>
      obtain @⟨negative, _, _, _, _, middle, back, first, _, _⟩ := digits
      obtain ⟨c, others, rfl, digit⟩ := exists_digit_of_whole first
      cases negative with
      | true => exact ⟨[], '-', _, rfl, nothing, by decide⟩
      | false => exact ⟨[], c, _, rfl, nothing, visible_of_digit digit⟩
  | string quoted =>
      obtain @⟨ps, inner, right⟩ := quoted
      exact ⟨[], '"', _, rfl, nothing, by decide⟩
  | emptyArray _ | array _ => exact ⟨[], '[', _, rfl, nothing, by decide⟩
  | emptyObject _ | object _ => exact ⟨[], '\x7b', _, rfl, nothing, by decide⟩
  | @padded json before cs after left inside right ih =>
      obtain ⟨blank, c, others, rfl, empty, visible⟩ := ih
      exact ⟨before ++ blank, c, others ++ after, by simp, blank_append left empty, visible⟩
  | oneElement only ih | oneMember only ih => exact ih
  | moreElements first more ih _ | moreMembers first more ih _ =>
      obtain ⟨blank, c, others, rfl, empty, visible⟩ := ih
      exact ⟨blank, c, _, List.append_assoc .., empty, visible⟩
  | member left named apart inside _ =>
      obtain @⟨ps, inner, right⟩ := named
      exact ⟨_, '"', _, rfl, left, by decide⟩

/-- The reader takes a phrase off a text within so many steps. -/
def Takes (steps : Nat) (cs rest : List Char) : Phrase → Prop
  | .value json => Stops isNumeral rest → value steps (cs ++ rest) = some (json, rest)
  | .padded json => Stops isNumeral rest → padded (value steps) (cs ++ rest) = some (json, skipBlank rest)
  | .elements list => elements steps (cs ++ ']' :: rest) = some (list, rest)
  | .member name json =>
      Stops isNumeral rest → member (value steps) (cs ++ rest) = some ((name, json), skipBlank rest)
  | .members list => members steps (cs ++ '\x7d' :: rest) = some (list, rest)

/-- As many steps as a phrase needs at most. -/
def stepsFor (cs : List Char) : Phrase → Nat
  | .elements _ | .members _ => 2 * cs.length + 1
  | _ => 2 * cs.length

theorem stops_blank {blank : List Char} (empty : Blank blank) (stops : Stops isNumeral rest) :
    Stops isNumeral (blank ++ rest) := by
  cases blank with
  | nil => exact stops
  | cons c blank =>
      rintro _ first
      cases first
      rcases empty c (List.mem_cons_self ..) with rfl | rfl | rfl | rfl <;> decide

theorem value_number {number : Number} (spelled : number.Spelled cs)
    (stops : Stops isNumeral rest) :
    value (steps + 1) (cs ++ rest) = some (.number number, rest) := by
  have read := number_of_spelled spelled stops
  obtain ⟨c, others, whole, first⟩ :
      ∃ c others, cs = c :: others ∧ (c = '-' ∨ c.isDigit = true) := by
    obtain @⟨negative, _, _, _, _, middle, back, first, _, _⟩ := spelled
    obtain ⟨c, others, rfl, digit⟩ := exists_digit_of_whole first
    cases negative with
    | true => exact ⟨'-', _, rfl, Or.inl rfl⟩
    | false => exact ⟨c, _, rfl, Or.inr digit⟩
  subst whole
  have visible : isBlank c = false := by
    rcases first with rfl | digit
    · decide
    · exact (visible_of_digit digit).1
  rw [List.cons_append] at read ⊢
  rw [value, skipBlank_cons visible]
  -- None of the characters that begin another value begins a number.
  split
  case h_7 => rw [read]; rfl
  all_goals
    rename_i same
    rw [(List.cons.inj same).1] at first
    exact absurd first (by decide)

theorem value_array {list : List Json} (spelled : (Phrase.elements list).Spelled cs)
    (read : elements steps (cs ++ ']' :: rest) = some (list, rest)) :
    value (steps + 1) ('[' :: (cs ++ ']' :: rest)) = some (.array list, rest) := by
  obtain ⟨before, c, others, rfl, blank, visible, closing, _⟩ := exists_begin spelled
  have begins :
      skipBlank (before ++ c :: others ++ ']' :: rest) = c :: (others ++ ']' :: rest) := by
    rw [List.append_assoc, skipBlank_append blank, List.cons_append, skipBlank_cons visible]
  rw [← elements_skipBlank, begins] at read
  rw [value, skipBlank_cons (by decide)]
  simp only [begins]
  split
  · rename_i same
    cases same
    exact absurd rfl closing
  · rw [read]
    rfl

theorem value_object {list : List (Text × Json)} (spelled : (Phrase.members list).Spelled cs)
    (read : members steps (cs ++ '\x7d' :: rest) = some (list, rest)) :
    value (steps + 1) ('\x7b' :: (cs ++ '\x7d' :: rest)) = some (.object list, rest) := by
  obtain ⟨before, c, others, rfl, blank, visible, _, closing⟩ := exists_begin spelled
  have begins : skipBlank (before ++ c :: others ++ '\x7d' :: rest) =
      c :: (others ++ '\x7d' :: rest) := by
    rw [List.append_assoc, skipBlank_append blank, List.cons_append, skipBlank_cons visible]
  rw [← members_skipBlank, begins] at read
  rw [value, skipBlank_cons (by decide)]
  simp only [begins]
  split
  · rename_i same
    cases same
    exact absurd rfl closing
  · rw [read]
    rfl

theorem exists_fewer {phrase : Phrase} (spelled : phrase.Spelled cs)
    (enough : stepsFor cs phrase ≤ steps) : ∃ fewer, steps = fewer + 1 := by
  obtain ⟨before, c, others, rfl, _⟩ := exists_begin spelled
  apply Nat.exists_eq_succ_of_ne_zero
  cases phrase <;> simp [stepsFor] at enough <;> omega

theorem padded_of_takes {json : Json} {before after : List Char} (left : Blank before)
    (right : Blank after) (takes : ∀ rest, Takes steps cs rest (.value json)) :
    Takes steps (before ++ (cs ++ after)) rest (.padded json) := by
  intro stops
  have read := takes (after ++ rest) (stops_blank right stops)
  have whole : before ++ (cs ++ after) ++ rest = before ++ (cs ++ (after ++ rest)) := by simp
  rw [padded, whole, ← value_skipBlank, skipBlank_append left, value_skipBlank, read,
    Option.map_some, skipBlank_append right]

theorem member_of_takes {name : Text} {json : Json} {before key between : List Char}
    (left : Blank before) (named : name.Spelled key) (apart : Blank between)
    (takes : Takes steps cs rest (.padded json)) :
    Takes steps (before ++ (key ++ (between ++ ':' :: cs))) rest (.member name json) := by
  intro stops
  have whole : before ++ (key ++ (between ++ ':' :: cs)) ++ rest =
      before ++ (key ++ (between ++ ':' :: (cs ++ rest))) := by simp
  obtain ⟨inner, quoted, read⟩ := text_of_spelled named (between ++ ':' :: (cs ++ rest))
  have colon : skipBlank (between ++ ':' :: (cs ++ rest)) = ':' :: (cs ++ rest) := by
    rw [skipBlank_append apart, skipBlank_cons (by decide)]
  rw [member, whole, skipBlank_append left, quoted, skipBlank_cons (by decide)]
  simp only [read, Option.bind_eq_bind, Option.bind_some, colon, takes stops, Option.map_some]

/-- The characters that stand behind an item of a list. -/
def IsMark (c : Char) : Prop := c = ',' ∨ c = ']' ∨ c = '\x7d'

theorem stops_mark {c : Char} (mark : IsMark c) : Stops isNumeral (c :: rest) := by
  rintro _ first
  cases first
  rcases mark with rfl | rfl | rfl <;> decide

theorem skipBlank_mark {c : Char} (mark : IsMark c) : skipBlank (c :: rest) = c :: rest := by
  apply skipBlank_cons
  rcases mark with rfl | rfl | rfl <;> decide

theorem padded_before_mark {json : Json} {c : Char} (mark : IsMark c)
    (takes : Takes steps cs (c :: rest) (.padded json)) :
    padded (value steps) (cs ++ c :: rest) = some (json, c :: rest) := by
  rw [takes (stops_mark mark), skipBlank_mark mark]

theorem member_before_mark {name : Text} {json : Json} {c : Char} (mark : IsMark c)
    (takes : Takes steps cs (c :: rest) (.member name json)) :
    member (value steps) (cs ++ c :: rest) = some ((name, json), c :: rest) := by
  rw [takes (stops_mark mark), skipBlank_mark mark]

theorem takes_of_spelled {phrase : Phrase} (spelled : phrase.Spelled cs) :
    ∀ steps rest, stepsFor cs phrase ≤ steps → Takes steps cs rest phrase := by
  induction spelled with
  | null | true | false =>
      intro steps rest enough _
      obtain ⟨fewer, rfl⟩ := exists_fewer (by constructor) enough
      rfl
  | number digits =>
      intro steps rest enough stops
      obtain ⟨fewer, rfl⟩ := exists_fewer (.number digits) enough
      exact value_number digits stops
  | string quoted =>
      intro steps rest enough _
      obtain ⟨fewer, rfl⟩ := exists_fewer (.string quoted) enough
      obtain ⟨inner, begins, read⟩ := text_of_spelled quoted rest
      rw [begins, value, skipBlank_cons (by decide)]
      simp only [read, Option.map_some]
  | emptyArray nothing =>
      intro steps rest enough _
      obtain ⟨fewer, rfl⟩ := exists_fewer (.emptyArray nothing) enough
      simp [value, skipBlank_cons, skipBlank_append nothing, isBlank]
  | array inside ih =>
      intro steps rest enough _
      obtain ⟨fewer, rfl⟩ := exists_fewer (.array inside) enough
      have read := ih fewer rest (by simp [stepsFor] at enough ⊢; omega)
      rw [List.cons_append, List.append_assoc]
      exact value_array inside read
  | emptyObject nothing =>
      intro steps rest enough _
      obtain ⟨fewer, rfl⟩ := exists_fewer (.emptyObject nothing) enough
      simp [value, skipBlank_cons, skipBlank_append nothing, isBlank]
  | object inside ih =>
      intro steps rest enough _
      obtain ⟨fewer, rfl⟩ := exists_fewer (.object inside) enough
      have read := ih fewer rest (by simp [stepsFor] at enough ⊢; omega)
      rw [List.cons_append, List.append_assoc]
      exact value_object inside read
  | padded left inside right ih =>
      intro steps rest enough
      exact padded_of_takes left right fun rest =>
        ih steps rest (by simp [stepsFor] at enough ⊢; omega)
  | member left named apart inside ih =>
      intro steps rest enough
      exact member_of_takes left named apart
        (ih steps rest (by simp [stepsFor] at enough ⊢; omega))
  | oneElement only ih =>
      intro steps rest enough
      obtain ⟨fewer, rfl⟩ := exists_fewer (.oneElement only) enough
      have read := padded_before_mark (.inr (.inl rfl))
        (ih fewer (']' :: rest) (by simp [stepsFor] at enough ⊢; omega))
      rw [Takes, elements, separated_eq_some_iff (by decide)]
      exact .inl ⟨_, read, rfl⟩
  | @moreElements json others cs behind first more ih ihMore =>
      intro steps rest enough
      obtain ⟨fewer, rfl⟩ := exists_fewer (.moreElements first more) enough
      have read := padded_before_mark (.inl rfl)
        (ih fewer (',' :: (behind ++ ']' :: rest)) (by simp [stepsFor] at enough ⊢; omega))
      have readMore := ihMore fewer rest (by simp [stepsFor] at enough ⊢; omega)
      rw [Takes, List.append_assoc, elements, separated_eq_some_iff (by decide)]
      exact .inr ⟨json, others, _, read, readMore, rfl⟩
  | oneMember only ih =>
      intro steps rest enough
      obtain ⟨fewer, rfl⟩ := exists_fewer (.oneMember only) enough
      have read := member_before_mark (.inr (.inr rfl))
        (ih fewer ('\x7d' :: rest) (by simp [stepsFor] at enough ⊢; omega))
      rw [Takes, members, separated_eq_some_iff (by decide)]
      exact .inl ⟨_, read, rfl⟩
  | @moreMembers name json others cs behind first more ih ihMore =>
      intro steps rest enough
      obtain ⟨fewer, rfl⟩ := exists_fewer (.moreMembers first more) enough
      have read := member_before_mark (.inl rfl)
        (ih fewer (',' :: (behind ++ '\x7d' :: rest)) (by simp [stepsFor] at enough ⊢; omega))
      have readMore := ihMore fewer rest (by simp [stepsFor] at enough ⊢; omega)
      rw [Takes, List.append_assoc, members, separated_eq_some_iff (by decide)]
      exact .inr ⟨(name, json), others, _, read, readMore, rfl⟩

end Reader

open Reader in
/-- Reading some bytes gives a value exactly if they spell the value. -/
theorem parseBytes?_eq_some_iff {bytes : Bytes} {json : Json} :
    parseBytes? bytes = some json ↔ Spells bytes json := by
  simp only [parseBytes?, Spells]
  constructor
  · intro read
    split at read
    · rename_i rest taken
      rw [Option.ite_none_right_eq_some] at read
      obtain ⟨ends, same⟩ := read
      cases same
      obtain ⟨before, cs, whole, left, inside⟩ := (sound _).value taken
      obtain ⟨after, remaining, right⟩ := exists_eq_append_skipBlank rest
      rw [ends, List.append_nil] at remaining
      rw [whole, remaining]
      exact .padded left inside right
    · cases read
  · intro spelled
    have read := takes_of_spelled spelled (2 * bytes.toChars.length + 2) []
      (by simp [stepsFor]) (by simp [Stops])
    rw [List.append_nil, padded] at read
    obtain ⟨⟨_, rest⟩, taken, same⟩ := Option.map_eq_some_iff.mp read
    simp only [skipBlank, List.dropWhile_nil, Prod.mk.injEq] at same
    obtain ⟨rfl, ends⟩ := same
    simp only [taken]
    exact if_pos ends

/-- Some bytes spell one value at most. -/
theorem Spells.unique {bytes : Bytes} {json other : Json} (spells : Spells bytes json)
    (again : Spells bytes other) : json = other := by
  rw [← parseBytes?_eq_some_iff] at spells again
  exact Option.some.inj (spells.symm.trans again)

end BridgeClient.Json
