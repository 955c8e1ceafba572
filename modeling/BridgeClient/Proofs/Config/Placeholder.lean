import BridgeClient.Config.Placeholder

set_option autoImplicit false

/-!
What filling does to a text. In a placeholder the first character is the only dollar sign and the last
one the only closing brace, so no two placeholders overlap: every placeholder in a text is filled,
whatever stands around it, and a text can be cut anywhere but inside one.
-/
namespace BridgeClient

namespace Placeholder

variable {environment : Environment} {name : String} {c : Char} {cs front back : List Char}

/-- A capital letter or `_`, followed by capital letters, digits and `_`. -/
def IsName (name : String) : Prop :=
  ∃ first others, name.toList = first :: others ∧ startsName first = true ∧
    ∀ c ∈ others, continuesName c = true

/-- The placeholder of a name. -/
def form (name : String) : List Char := '$' :: '\x7b' :: (name.toList ++ ['\x7d'])

/-- What a placeholder is filled with. -/
def value (environment : Environment) (name : String) : List Char :=
  ((environment name).getD "").toList

/-- A placeholder stands at the front. -/
def Begins (cs : List Char) : Prop := ∃ name rest, IsName name ∧ cs = form name ++ rest

/-- A placeholder goes over the cut between two texts. -/
def Cuts (front back : List Char) : Prop :=
  ∃ name before left right after, IsName name ∧ left ≠ [] ∧ right ≠ [] ∧
    form name = left ++ right ∧ front = before ++ left ∧ back = right ++ after

theorem continuesName_of_mem (proper : IsName name) :
    ∀ c ∈ name.toList, continuesName c = true := by
  obtain ⟨first, others, spelled, starts, continues⟩ := proper
  rw [spelled]
  exact List.forall_mem_cons.mpr ⟨by simp [continuesName, starts], continues⟩

theorem not_mem_of_isName (proper : IsName name) : '$' ∉ name.toList ∧ '\x7d' ∉ name.toList :=
  ⟨fun inside => absurd (continuesName_of_mem proper _ inside) (by decide),
    fun inside => absurd (continuesName_of_mem proper _ inside) (by decide)⟩

/-- A name is read up to the closing brace. -/
theorem name?_eq_some_iff {name rest : List Char} :
    name? cs = some (name, rest) ↔ IsName (String.ofList name) ∧ cs = name ++ '\x7d' :: rest := by
  constructor
  · intro found
    unfold name? at found
    split at found
    · rename_i first others rest' taken dropped
      split at found
      · rename_i starts
        cases found
        refine ⟨⟨first, others, String.toList_ofList, starts, ?_⟩, ?_⟩
        · intro c inside
          have all : (cs.takeWhile continuesName).all continuesName = true := List.all_takeWhile
          rw [taken, List.all_eq_true] at all
          exact all c (List.mem_cons_of_mem first inside)
        · rw [← taken, ← dropped, List.takeWhile_append_dropWhile]
      · cases found
    · cases found
  · rintro ⟨proper, rfl⟩
    have all := continuesName_of_mem proper
    rw [String.toList_ofList] at all
    obtain ⟨first, others, spelled, starts, -⟩ := proper
    rw [String.toList_ofList] at spelled
    have taken : (name ++ '\x7d' :: rest).takeWhile continuesName = name := by
      rw [List.takeWhile_append_of_pos all, List.takeWhile_cons_of_neg (by decide), List.append_nil]
    have dropped : (name ++ '\x7d' :: rest).dropWhile continuesName = '\x7d' :: rest := by
      rw [List.dropWhile_append_of_pos all, List.dropWhile_cons_of_neg (by decide)]
    unfold name?
    rw [taken, dropped, spelled]
    exact if_pos starts

@[simp] theorem fill_nil : fill environment [] = [] := by
  rw [fill]

theorem fill_form (proper : IsName name) :
    fill environment (form name ++ back) = value environment name ++ fill environment back := by
  have found : name? (name.toList ++ '\x7d' :: back) = some (name.toList, back) :=
    name?_eq_some_iff.mpr ⟨by rwa [String.ofList_toList], rfl⟩
  rw [form, List.cons_append, List.cons_append, List.append_assoc, List.singleton_append, fill]
  split
  · rename_i same
    rw [found] at same
    cases same
    rw [value, String.ofList_toList]
  · rename_i missing
    rw [found] at missing
    cases missing

theorem fill_cons (clear : ¬ Begins (c :: cs)) :
    fill environment (c :: cs) = c :: fill environment cs := by
  by_cases opens : ∃ rest, c = '$' ∧ cs = '\x7b' :: rest
  · obtain ⟨rest, rfl, rfl⟩ := opens
    rw [fill]
    split
    · rename_i name after found
      obtain ⟨proper, rfl⟩ := name?_eq_some_iff.mp found
      refine absurd ⟨String.ofList name, after, proper, ?_⟩ clear
      simp [form, String.toList_ofList]
    · rfl
  · rw [fill]
    rintro rest rfl rfl
    exact opens ⟨rest, rfl, rfl⟩

/-- What stands behind the first character of a placeholder holds no dollar sign. -/
theorem dollar_not_mem_of_form_eq {left right : List Char} (plain : '$' ∉ name.toList)
    (some_left : left ≠ []) (split : form name = left ++ right) : '$' ∉ right := by
  obtain ⟨first, rest, rfl⟩ := List.exists_cons_of_ne_nil some_left
  have behind : '\x7b' :: (name.toList ++ ['\x7d']) = rest ++ right := (List.cons.inj split).2
  intro inside
  have among : '$' ∈ '\x7b' :: (name.toList ++ ['\x7d']) := by
    rw [behind]
    exact List.mem_append_right rest inside
  simp [plain] at among

/-- What stands before the last character of a placeholder holds no closing brace. -/
theorem brace_of_form_eq {left right : List Char} (plain : '\x7d' ∉ name.toList)
    (some_right : right ≠ []) (split : form name = left ++ right) :
    '\x7d' ∉ left ∧ '\x7d' ∈ right := by
  obtain rfl | ⟨start, last, rfl⟩ := right.eq_nil_or_concat
  · exact absurd rfl some_right
  · rw [List.concat_eq_append] at *
    have ends : ('$' :: '\x7b' :: name.toList) ++ ['\x7d'] = (left ++ start) ++ [last] := by
      rw [List.append_assoc, ← split]
      rfl
    obtain ⟨before, same⟩ := List.append_inj' ends rfl
    cases same
    refine ⟨?_, by simp⟩
    intro inside
    have among : '\x7d' ∈ '$' :: '\x7b' :: name.toList := by
      rw [before]
      exact List.mem_append_left start inside
    simp [plain] at among

/-- A placeholder is told from its beginning. -/
theorem form_append_inj {other : String} (plain : '\x7d' ∉ name.toList)
    (alsoPlain : '\x7d' ∉ other.toList) (same : form name ++ front = form other ++ back) :
    name = other ∧ front = back := by
  have spelled : name.toList ++ '\x7d' :: front = other.toList ++ '\x7d' :: back := by
    simpa [form] using same
  have whole : name.toList = other.toList := by
    have ahead := congrArg (List.takeWhile (· ≠ '\x7d')) spelled
    rwa [List.takeWhile_append_of_pos, List.takeWhile_append_of_pos,
      List.takeWhile_cons_of_neg (by simp), List.takeWhile_cons_of_neg (by simp), List.append_nil,
      List.append_nil] at ahead
    · intro c inside
      simpa using fun same : c = '\x7d' => alsoPlain (same ▸ inside)
    · intro c inside
      simpa using fun same : c = '\x7d' => plain (same ▸ inside)
  rw [whole, List.append_cancel_left_eq] at spelled
  exact ⟨String.toList_inj.mp whole, (List.cons.inj spelled).2⟩

section Pieces

/-- A part of a text: a character that is kept, or a placeholder that is filled. -/
inductive Piece where
  | kept (c : Char)
  | filled (name : String)

namespace Piece

/-- What stands in the text. -/
def source : Piece → List Char
  | kept c => [c]
  | filled name => form name

/-- What stands in the filled text. -/
def written (environment : Environment) : Piece → List Char
  | kept c => [c]
  | filled name => value environment name

end Piece

/-- Pieces taken from the left: a placeholder wherever one begins, and a character elsewhere. -/
def Leftmost : List Piece → Prop
  | [] => True
  | .kept c :: pieces => ¬ Begins (c :: pieces.flatMap Piece.source) ∧ Leftmost pieces
  | .filled name :: pieces => IsName name ∧ Leftmost pieces

/-- The pieces of a text. -/
structure Reads (cs : List Char) (pieces : List Piece) : Prop where
  source : pieces.flatMap Piece.source = cs
  leftmost : Leftmost pieces

theorem exists_reads (cs : List Char) : ∃ pieces, Reads cs pieces := by
  induction length : cs.length using Nat.strongRecOn generalizing cs with
  | _ n ih =>
      by_cases begins : Begins cs
      · obtain ⟨name, rest, proper, rfl⟩ := begins
        have shorter : rest.length < n := by
          rw [← length]
          simp [form]
          omega
        obtain ⟨pieces, source, leftmost⟩ := ih rest.length shorter rest rfl
        refine ⟨.filled name :: pieces, ?_, proper, leftmost⟩
        rw [List.flatMap_cons, source]
        rfl
      · cases cs with
        | nil => exact ⟨[], rfl, trivial⟩
        | cons c rest =>
            have shorter : rest.length < n := by
              rw [← length]
              exact Nat.lt_succ_self _
            obtain ⟨pieces, rfl, leftmost⟩ := ih rest.length shorter rest rfl
            exact ⟨.kept c :: pieces, rfl, begins, leftmost⟩

theorem Leftmost.unique {pieces others : List Piece} (leftmost : Leftmost pieces)
    (also : Leftmost others) (same : pieces.flatMap Piece.source = others.flatMap Piece.source) :
    pieces = others := by
  induction pieces generalizing others with
  | nil =>
      cases others with
      | nil => rfl
      | cons other rest => cases other <;> cases same
  | cons piece pieces ih =>
      cases others with
      | nil => cases piece <;> cases same
      | cons other others =>
          cases piece with
          | kept c =>
              cases other with
              | kept d =>
                  obtain ⟨rfl, later⟩ := List.cons.inj same
                  rw [ih leftmost.2 also.2 later]
              | filled name => exact absurd ⟨name, _, also.1, same⟩ leftmost.1
          | filled name =>
              cases other with
              | kept d => exact absurd ⟨name, _, leftmost.1, same.symm⟩ also.1
              | filled other =>
                  obtain ⟨rfl, later⟩ := form_append_inj (not_mem_of_isName leftmost.1).2
                    (not_mem_of_isName also.1).2 same
                  rw [ih leftmost.2 also.2 later]

theorem fill_of_leftmost {pieces : List Piece} (leftmost : Leftmost pieces) :
    fill environment (pieces.flatMap Piece.source) =
      pieces.flatMap (Piece.written environment) := by
  induction pieces with
  | nil => exact fill_nil
  | cons piece pieces ih =>
      cases piece with
      | kept c => exact (fill_cons leftmost.1).trans (congrArg (c :: ·) (ih leftmost.2))
      | filled name =>
          exact (fill_form leftmost.1).trans (congrArg (value environment name ++ ·) (ih leftmost.2))

end Pieces

section Cuts

theorem Cuts.append_left (before : List Char) (cuts : Cuts front back) :
    Cuts (before ++ front) back := by
  obtain ⟨name, start, left, right, after, proper, some_left, some_right, split, rfl, rfl⟩ := cuts
  exact ⟨name, before ++ start, left, right, after, proper, some_left, some_right, split,
    (List.append_assoc _ _ _).symm, rfl⟩

theorem not_cuts_before_dollar (front back : List Char) : ¬ Cuts front ('$' :: back) := by
  rintro ⟨name, before, left, right, after, proper, some_left, some_right, split, -, same⟩
  obtain ⟨first, rest, rfl⟩ := List.exists_cons_of_ne_nil some_right
  obtain ⟨rfl, -⟩ := List.cons.inj same
  exact dollar_not_mem_of_form_eq (not_mem_of_isName proper).1 some_left split (by simp)

theorem not_cuts_behind_brace (front back : List Char) : ¬ Cuts (front ++ ['\x7d']) back := by
  rintro ⟨name, before, left, right, after, proper, some_left, some_right, split, same, -⟩
  obtain rfl | ⟨start, last, rfl⟩ := left.eq_nil_or_concat
  · exact some_left rfl
  · rw [List.concat_eq_append, ← List.append_assoc] at same
    obtain ⟨-, closing⟩ := List.append_inj' same rfl
    cases closing
    exact (brace_of_form_eq (not_mem_of_isName proper).2 some_right split).1 (by simp)

theorem not_cuts_of_unclosed (front : List Char) (unclosed : '\x7d' ∉ back) :
    ¬ Cuts front back := by
  rintro ⟨name, before, left, right, after, proper, some_left, some_right, split, -, rfl⟩
  have closing := (brace_of_form_eq (not_mem_of_isName proper).2 some_right split).2
  exact unclosed (List.mem_append_left after closing)

/-- A placeholder that begins in front of a cut ends there or goes over the cut. -/
theorem begins_of_append (whole : ¬ Cuts front back) (some_front : front ≠ [])
    (begins : Begins (front ++ back)) : Begins front := by
  obtain ⟨name, rest, proper, same⟩ := begins
  rcases List.append_eq_append_iff.mp same with ⟨right, formed, rfl⟩ | ⟨left, rfl, -⟩
  · by_cases ends : right = []
    · subst ends
      exact ⟨name, [], proper, by simpa using formed.symm⟩
    · exact absurd ⟨name, [], front, right, rest, proper, some_front, ends, formed, rfl, rfl⟩ whole
  · exact ⟨name, left, proper, rfl⟩

/-- Both sides of a cut are filled on their own. -/
theorem fill_append (whole : ¬ Cuts front back) :
    fill environment (front ++ back) = fill environment front ++ fill environment back := by
  obtain ⟨pieces, rfl, leftmost⟩ := exists_reads front
  induction pieces with
  | nil => simp
  | cons piece pieces ih =>
      have later : ¬ Cuts (pieces.flatMap Piece.source) back :=
        fun cuts => whole (cuts.append_left piece.source)
      cases piece with
      | kept c =>
          have clear : ¬ Begins (c :: (pieces.flatMap Piece.source ++ back)) :=
            fun begins => leftmost.1 (begins_of_append whole (List.cons_ne_nil _ _) begins)
          have kept : (Piece.kept c :: pieces).flatMap Piece.source =
              c :: pieces.flatMap Piece.source := rfl
          rw [kept, List.cons_append, fill_cons clear, fill_cons leftmost.1, ih leftmost.2 later,
            List.cons_append]
      | filled name =>
          have filled : (Piece.filled name :: pieces).flatMap Piece.source =
              form name ++ pieces.flatMap Piece.source := rfl
          rw [filled, List.append_assoc, fill_form leftmost.1, fill_form leftmost.1,
            ih leftmost.2 later, List.append_assoc]

/-- No placeholder begins anywhere. -/
def Clear (cs : List Char) : Prop := ∀ before after, cs = before ++ after → ¬ Begins after

theorem fill_of_clear (clear : Clear cs) : fill environment cs = cs := by
  induction cs with
  | nil => exact fill_nil
  | cons c cs ih =>
      have later : Clear cs := fun before after same => clear (c :: before) after (by rw [same]; rfl)
      rw [fill_cons (clear [] _ rfl), ih later]

theorem clear_of_unclosed (unclosed : '\x7d' ∉ cs) : Clear cs := by
  rintro before - rfl ⟨name, rest, -, rfl⟩
  exact unclosed (by simp [form])

theorem clear_of_no_dollar (plain : '$' ∉ cs) : Clear cs := by
  rintro before - rfl ⟨name, rest, -, rfl⟩
  exact plain (by simp [form])

theorem clear_form (improper : ¬ IsName name) (noDollar : '$' ∉ name.toList)
    (noBrace : '\x7d' ∉ name.toList) : Clear (form name) := by
  rintro before - split ⟨other, rest, proper, rfl⟩
  cases before with
  | nil =>
      have same : form name ++ [] = form other ++ rest := by rw [List.append_nil, split]; rfl
      obtain ⟨rfl, -⟩ := form_append_inj noBrace (not_mem_of_isName proper).2 same
      exact improper proper
  | cons first before =>
      exact dollar_not_mem_of_form_eq noDollar (List.cons_ne_nil _ _) split (by simp [form])

end Cuts

end Placeholder

namespace Environment

open Placeholder

variable {environment : Environment} {front name back : String}

/-- `$`, and a name in braces. -/
def placeholder (name : String) : String := "$\x7b" ++ name ++ "\x7d"

@[simp] theorem toList_placeholder (name : String) : (placeholder name).toList = form name := by
  simp [placeholder, form]

@[simp] theorem toList_fill (environment : Environment) (text : String) :
    (environment.fill text).toList = Placeholder.fill environment text.toList := by
  rw [fill, String.toList_ofList]

theorem fill_append (whole : ¬ Cuts front.toList back.toList) :
    environment.fill (front ++ back) = environment.fill front ++ environment.fill back := by
  rw [← String.toList_inj]
  simp [Placeholder.fill_append whole]

theorem fill_of_clear {text : String} (clear : Clear text.toList) : environment.fill text = text := by
  rw [← String.toList_inj, toList_fill, Placeholder.fill_of_clear clear]

/-- A placeholder is filled, whatever stands before and behind it. -/
theorem fill_placeholder (proper : IsName name) :
    environment.fill (front ++ placeholder name ++ back) =
      environment.fill front ++ (environment name).getD "" ++ environment.fill back := by
  have apart : ¬ Cuts front.toList (placeholder name ++ back).toList := by
    rw [String.toList_append, toList_placeholder, form, List.cons_append]
    exact not_cuts_before_dollar _ _
  have filled : environment.fill (placeholder name ++ back) =
      (environment name).getD "" ++ environment.fill back := by
    rw [← String.toList_inj]
    simp [fill_form proper, value]
  rw [String.append_assoc, fill_append apart, filled, String.append_assoc]

theorem fill_unclosed (unclosed : '\x7d' ∉ back.toList) :
    environment.fill (front ++ back) = environment.fill front ++ back := by
  rw [fill_append (not_cuts_of_unclosed _ unclosed), fill_of_clear (clear_of_unclosed unclosed)]

/-- Text in braces behind a dollar sign is kept if it is no name. -/
theorem fill_improper (improper : ¬ IsName name) (noDollar : '$' ∉ name.toList)
    (noBrace : '\x7d' ∉ name.toList) :
    environment.fill (front ++ placeholder name ++ back) =
      environment.fill front ++ placeholder name ++ environment.fill back := by
  have behind : ¬ Cuts (front ++ placeholder name).toList back.toList := by
    have closed : (front ++ placeholder name).toList =
        (front.toList ++ '$' :: '\x7b' :: name.toList) ++ ['\x7d'] := by simp [form]
    rw [closed]
    exact not_cuts_behind_brace _ _
  have before : ¬ Cuts front.toList (placeholder name).toList := by
    rw [toList_placeholder, form]
    exact not_cuts_before_dollar _ _
  have clear : Clear (placeholder name).toList := by
    rw [toList_placeholder]
    exact clear_form improper noDollar noBrace
  rw [fill_append behind, fill_append before, fill_of_clear clear]

/-- A placeholder in what looks like another one. -/
theorem fill_nested {outer inner : String} (proper : IsName name) (unclosed : '\x7d' ∉ outer.toList)
    (plain : '$' ∉ inner.toList) :
    environment.fill (front ++ ("$\x7b" ++ outer) ++ placeholder name ++ ((inner ++ "\x7d") ++ back)) =
      environment.fill front ++ ("$\x7b" ++ outer) ++ (environment name).getD "" ++
        ((inner ++ "\x7d") ++ environment.fill back) := by
  have opening : '\x7d' ∉ ("$\x7b" ++ outer).toList := by simpa using unclosed
  have behind : ¬ Cuts (inner ++ "\x7d").toList back.toList := by
    rw [String.toList_append]
    exact not_cuts_behind_brace _ _
  have clear : Clear (inner ++ "\x7d").toList := clear_of_no_dollar (by simpa using plain)
  rw [fill_placeholder proper, fill_unclosed opening, fill_append behind, fill_of_clear clear]

/-- Filling reads a text from the left in one way, and replaces each placeholder by the value of its
name; what it puts in is not looked at, and every other character stays where it is. -/
theorem fill_replaces_placeholders (environment : Environment) :
    (∀ text : String, ∃ pieces, Reads text.toList pieces ∧
      (∀ others, Reads text.toList others → others = pieces) ∧
      environment.fill text = String.ofList (pieces.flatMap (Piece.written environment))) ∧
    (∀ front name back, IsName name →
      environment.fill (front ++ placeholder name ++ back) =
        environment.fill front ++ (environment name).getD "" ++ environment.fill back) ∧
    (∀ text, (∀ front name back, IsName name → text ≠ front ++ placeholder name ++ back) →
      environment.fill text = text) ∧
    -- A text can be cut anywhere but inside a placeholder.
    (∀ front back, ¬ Cuts front.toList back.toList →
      environment.fill (front ++ back) = environment.fill front ++ environment.fill back) ∧
    -- What no brace closes is kept, and so is what stands in braces and is no name.
    (∀ front back, '\x7d' ∉ back.toList →
      environment.fill (front ++ back) = environment.fill front ++ back) ∧
    (∀ front body back, ¬ IsName body → '$' ∉ body.toList → '\x7d' ∉ body.toList →
      environment.fill (front ++ placeholder body ++ back) =
        environment.fill front ++ placeholder body ++ environment.fill back) ∧
    -- Around a placeholder that is filled, the braces of an outer one are kept.
    (∀ front outer name inner back, IsName name → '\x7d' ∉ outer.toList → '$' ∉ inner.toList →
      environment.fill
          (front ++ ("$\x7b" ++ outer) ++ placeholder name ++ ((inner ++ "\x7d") ++ back)) =
        environment.fill front ++ ("$\x7b" ++ outer) ++ (environment name).getD "" ++
          ((inner ++ "\x7d") ++ environment.fill back)) := by
  refine ⟨?_, fun _ _ _ => fill_placeholder, ?_, fun _ _ => fill_append, fun _ _ => fill_unclosed,
    fun _ _ _ => fill_improper, fun _ _ _ _ _ => fill_nested⟩
  · intro text
    obtain ⟨pieces, source, leftmost⟩ := exists_reads text.toList
    refine ⟨pieces, ⟨source, leftmost⟩, ?_, ?_⟩
    · intro others reads
      exact reads.leftmost.unique leftmost (reads.source.trans source.symm)
    · rw [← String.toList_inj, toList_fill, String.toList_ofList, ← source,
        fill_of_leftmost leftmost]
  · intro text none_placed
    apply fill_of_clear
    rintro before - split ⟨name, rest, proper, rfl⟩
    apply none_placed (String.ofList before) name (String.ofList rest) proper
    rw [← String.toList_inj]
    simpa using split

/-- What is put in may look like a placeholder, and what a failed match began with is read again. -/
example :
    let environment : Environment := fun name => if name = "A" then some "$\x7bB\x7d$" else none
    environment.fill "$$\x7bA\x7d$\x7b$\x7bA\x7d\x7d$\x7bA$\x7bB\x7d\x7d" =
      "$$\x7bB\x7d$$\x7b$\x7bB\x7d$\x7d$\x7bA\x7d" := by
  decide +kernel

end Environment
end BridgeClient
