import BridgeClient.Proofs.Url.Authority

set_option autoImplicit false

/-!
A path put behind the text of a URL of the web. Slashes at the end of the text make no difference;
the scheme and the authority stay, and where there was no query and no fragment there is none.
-/
namespace BridgeClient.Url

open UrlPath

variable {scheme : List Char}

/-! ## Query and fragment -/

/-- Neither the mark of a query nor that of a fragment. -/
def Unmarked (cs : List Char) : Prop := '?' ∉ cs ∧ '#' ∉ cs

theorem unmarked_append_iff {front behind : List Char} :
    Unmarked (front ++ behind) ↔ Unmarked front ∧ Unmarked behind := by
  simp only [Unmarked, List.mem_append, not_or]
  exact and_and_and_comm

theorem unmarked_iff_forall {cs : List Char} :
    Unmarked cs ↔ ∀ c ∈ cs, (c ≠ '?' && c ≠ '#') = true := by
  constructor
  · rintro ⟨noQuery, noFragment⟩ c inside
    have first : c ≠ '?' := ne_of_mem_of_not_mem inside noQuery
    have second : c ≠ '#' := ne_of_mem_of_not_mem inside noFragment
    simp [first, second]
  · intro every
    constructor <;> intro inside <;> exact absurd (every _ inside) (by decide)

theorem cutTail_of_unmarked {cs : List Char} (unmarked : Unmarked cs) :
    cutTail cs = (cs, none, none) := by
  have goesOn := unmarked_iff_forall.mp unmarked
  rw [cutTail, List.dropWhile_eq_nil_iff.mpr goesOn, List.takeWhile_eq_self_iff.mpr goesOn]

theorem unmarked_of_cutTail {cs : List Char} (bare : (cutTail cs).2 = (none, none)) :
    Unmarked cs := by
  unfold cutTail at bare
  simp only at bare
  split at bare
  · split at bare <;> cases bare
  · cases bare
  · rename_i nothing
    exact unmarked_iff_forall.mpr (List.dropWhile_eq_nil_iff.mp nothing)

theorem assemble_of_unmarked {authority : Option (List Char)} {path : List Char → List Char}
    {cs : List Char} (unmarked : Unmarked cs) :
    assemble scheme authority path cs = ⟨scheme, authority, path cs, none, none⟩ := by
  rw [assemble, cutTail_of_unmarked unmarked]
  rfl

/-- Behind an authority, a query or a fragment is there just if its mark is. -/
theorem bare_assemble_iff {authority : Option (List Char)} {path : List Char → List Char}
    {cs : List Char} :
    (assemble scheme authority path cs).query = none ∧
        (assemble scheme authority path cs).fragment = none ↔
      Unmarked cs := by
  constructor
  · rintro ⟨noQuery, noFragment⟩
    exact unmarked_of_cutTail (Prod.ext (Option.map_eq_none_iff.mp noQuery)
      (Option.map_eq_none_iff.mp noFragment))
  · intro unmarked
    rw [assemble_of_unmarked unmarked]
    exact ⟨rfl, rfl⟩

/-! ## The scheme -/

theorem scheme?_eq_some_iff {cs rest : List Char} :
    scheme? cs = some (scheme, rest) ↔
      (∃ c ∈ cs.head?, c.isAlpha = true) ∧ cs.dropWhile continuesScheme = ':' :: rest ∧
        scheme = (cs.takeWhile continuesScheme).map Ascii.lower := by
  cases cs with
  | nil => simp [scheme?]
  | cons first cs =>
      simp only [scheme?, Option.ite_none_right_eq_some, List.head?_cons, Option.mem_def,
        Option.some.injEq, exists_eq_left']
      refine and_congr_right fun _ => ?_
      split
      · rename_i found
        rw [found, Option.some.injEq, Prod.mk.injEq, List.cons.injEq]
        constructor
        · rintro ⟨rfl, rfl⟩
          exact ⟨⟨rfl, rfl⟩, rfl⟩
        · rintro ⟨⟨_, rfl⟩, rfl⟩
          exact ⟨rfl, rfl⟩
      · rename_i other
        refine iff_of_false (by simp) fun found => ?_
        exact other _ found.1

/-- What stands behind the colon makes no difference to a scheme. -/
theorem scheme?_append {cs rest : List Char} (read : scheme? cs = some (scheme, rest))
    (behind : List Char) :
    scheme? (cs ++ behind) = some (scheme, rest ++ behind) := by
  obtain ⟨begins, colon, lower⟩ := scheme?_eq_some_iff.mp read
  have whole := List.takeWhile_append_dropWhile (p := continuesScheme) (l := cs)
  rw [colon] at whole
  have named : ∀ c ∈ cs.takeWhile continuesScheme, continuesScheme c = true :=
    fun _ => List.mem_takeWhile_imp
  generalize cs.takeWhile continuesScheme = name at whole named lower
  subst whole
  have noLetter : continuesScheme ':' = false := rfl
  refine scheme?_eq_some_iff.mpr ⟨?_, ?_, ?_⟩
  · cases name <;> exact begins
  · simp [List.dropWhile_append_of_pos named, noLetter]
  · simp [List.takeWhile_append_of_pos named, noLetter, lower]

/-- A scheme does not reach into the slashes behind it. -/
theorem exists_scheme?_of_append {front behind rest : List Char}
    (slash : ∀ c ∈ behind.head?, c = '/')
    (read : scheme? (front ++ behind) = some (scheme, rest)) :
    ∃ inner, rest = inner ++ behind ∧ scheme? front = some (scheme, inner) := by
  have stops : ∀ c ∈ behind.head?, continuesScheme c = false := by
    intro c first
    rw [slash c first]
    decide
  obtain ⟨taken, left⟩ := takeWhile_append_of_stops stops front
  obtain ⟨begins, colon, lower⟩ := scheme?_eq_some_iff.mp read
  rw [left] at colon
  rw [taken] at lower
  cases dropped : front.dropWhile continuesScheme with
  | nil =>
      rw [dropped, List.nil_append] at colon
      rw [colon] at slash
      exact absurd (slash ':' rfl) (by decide)
  | cons c inner =>
      rw [dropped] at colon
      cases colon
      refine ⟨inner, rfl, scheme?_eq_some_iff.mpr ⟨?_, dropped, lower⟩⟩
      cases front with
      | nil => cases dropped
      | cons first front => exact begins

/-! ## The whole text -/

theorem scheme_of_parseFile {cs raw : List Char} {url : Url}
    (parsed : parseFile scheme cs raw = .ok url) : url.scheme = scheme := by
  unfold parseFile at parsed
  simp only at parsed
  split at parsed
  · split at parsed
    · split at parsed
      · cases parsed
        rfl
      · obtain ⟨host, _, rfl⟩ := Sequencing.map_eq_ok_iff.mp parsed
        split <;> rfl
    · cases parsed
      rfl
  · cases parsed
    rfl

theorem scheme_of_parse {text : String} {url : Url} (parsed : parse text = .ok url) :
    ∃ rest, scheme? (withoutBreaks (trim text)) = some (url.scheme, rest) := by
  unfold parse at parsed
  simp only at parsed
  split at parsed
  · cases parsed
  · rename_i scheme rest read
    refine ⟨rest, read.trans ?_⟩
    suffices url.scheme = scheme by rw [this]
    split at parsed
    · exact scheme_of_parseFile parsed
    · obtain ⟨⟨host, behind⟩, _, rfl⟩ := Sequencing.map_eq_ok_iff.mp parsed
      rfl
    · obtain ⟨⟨host, behind⟩, _, rfl⟩ := Sequencing.map_eq_ok_iff.mp parsed
      rfl
    · cases parsed
      rfl

theorem parse_of_web {text : String} {rest : List Char} (web : styleOf scheme = .web)
    (read : scheme? (withoutBreaks (trim text)) = some (scheme, rest)) :
    parse text = (readAuthority scheme (rest.dropWhile (isSeparator .web))).map fun parts =>
      assemble scheme (some parts.1) (pathAfterAuthority .web) parts.2 := by
  simp only [parse, read, web]

/-- The authority is read in front of a slash as it is read at the end. -/
theorem readAuthority_slash (web : styleOf scheme = .web) {inner slashes host after : List Char}
    (only : ∀ c ∈ slashes, c = '/')
    (read : readAuthority scheme ((inner ++ slashes).dropWhile (isSeparator .web)) =
      .ok (host, after)) :
    ∃ kept, after = kept ++ slashes ∧ ∀ other : List Char, (∀ c ∈ other.head?, c = '/') →
      readAuthority scheme ((inner ++ other).dropWhile (isSeparator .web)) =
        .ok (host, kept ++ other) := by
  have slash : ∀ c ∈ slashes.head?, c = '/' := fun c first => only c (List.mem_of_mem_head? first)
  cases begins : inner.dropWhile (isSeparator .web) with
  | nil =>
      -- Nothing but slashes has no authority.
      have all : slashes.dropWhile (isSeparator .web) = [] := by
        rw [List.dropWhile_eq_nil_iff]
        intro c inside
        rw [only c inside]
        decide
      rw [List.dropWhile_append, begins, if_pos List.isEmpty_nil, all] at read
      have refused : readAuthority scheme [] = .error .emptyHost := hostAndPort_nil web
      rw [refused] at read
      cases read
  | cons c others =>
      have dropped (behind : List Char) :
          (inner ++ behind).dropWhile (isSeparator .web) = (c :: others) ++ behind := by
        rw [List.dropWhile_append, begins, if_neg (by simp)]
      obtain ⟨own, kept, whole, inside, ends⟩ := exists_bounded (c :: others)
      have read? {behind : List Char} (slash : ∀ c ∈ behind.head?, c = '/') :
          readAuthority scheme ((inner ++ behind).dropWhile (isSeparator .web)) =
            (readAuthority scheme own).map fun read => (read.1, kept ++ behind) := by
        rw [dropped, whole, List.append_assoc]
        apply readAuthority_append web ⟨inside, ?_⟩
        cases kept with
        | nil =>
            intro c first
            rw [slash c first]
            decide
        | cons last kept => exact ends
      rw [read? slash] at read
      obtain ⟨⟨found, _⟩, authority, same⟩ := Sequencing.map_eq_ok_iff.mp read
      cases same
      refine ⟨kept, rfl, fun other slash => ?_⟩
      rw [read? slash, authority]
      rfl

/-! ## Slashes and blanks at the end -/

/-- A text without the slashes at its end. -/
def withoutSlashes (text : String) : String :=
  String.ofList (text.toList.reverse.dropWhile (· = '/')).reverse

theorem exists_slashes (text : String) : ∃ slashes,
    text.toList = (withoutSlashes text).toList ++ slashes ∧ ∀ c ∈ slashes, c = '/' := by
  refine ⟨(text.toList.reverse.takeWhile (· = '/')).reverse, ?_, ?_⟩
  · rw [withoutSlashes, String.toList_ofList, ← List.reverse_append,
      List.takeWhile_append_dropWhile, List.reverse_reverse]
  · intro c inside
    simpa using List.mem_takeWhile_imp (List.mem_reverse.mp inside)

/-- A text that ends with a visible character loses blanks at its front only. -/
theorem trim_append {front behind : List Char} (begins : ∀ c ∈ behind.head?, 0x20 < c.toNat)
    (ends : ∀ c ∈ (front ++ behind).getLast?, 0x20 < c.toNat) :
    trim (String.ofList (front ++ behind)) =
      front.dropWhile (fun c => c.toNat ≤ 0x20) ++ behind := by
  have stops {cs : List Char} (visible : ∀ c ∈ cs.head?, 0x20 < c.toNat) :
      ∀ c ∈ cs.head?, decide (c.toNat ≤ 0x20) = false := by
    intro c first
    have := visible c first
    simp only [decide_eq_false_iff_not]
    omega
  have dropped := (takeWhile_append_of_stops (stops begins) front).2
  rw [trim, String.toList_ofList, dropped]
  generalize left : front.dropWhile (fun c => c.toNat ≤ 0x20) ++ behind = kept at dropped
  have last : ∀ c ∈ kept.reverse.head?, 0x20 < c.toNat := by
    rw [List.head?_reverse]
    intro c final
    apply ends c
    obtain ⟨lead, whole⟩ := List.dropWhile_suffix (l := front ++ behind) (fun c => c.toNat ≤ 0x20)
    rw [dropped] at whole
    rw [← whole, List.getLast?_append, Option.mem_def.mp final]
    rfl
  have whole := (takeWhile_append_of_stops (stops last) []).2
  rw [List.nil_append, List.dropWhile_nil, List.nil_append] at whole
  rw [whole, List.reverse_reverse]

/-- A path that may stand behind the text of a URL: no query, no fragment, nothing blank. -/
structure IsPath (path : List Char) : Prop where
  slash : path.head? = some '/'
  visible : ∀ c ∈ path, 0x20 < c.toNat
  plain : Unmarked path

theorem isBreak_of_visible {c : Char} (visible : 0x20 < c.toNat) : isBreak c = false := by
  rw [← Bool.not_eq_true]
  intro breaks
  simp only [isBreak, Bool.or_eq_true, decide_eq_true_eq] at breaks
  rcases breaks with (rfl | rfl) | rfl <;> exact absurd visible (by decide)

theorem withoutBreaks_of_visible {cs : List Char} (visible : ∀ c ∈ cs, 0x20 < c.toNat) :
    withoutBreaks cs = cs := by
  rw [withoutBreaks, List.filter_eq_self]
  intro c inside
  rw [isBreak_of_visible (visible c inside), Bool.not_false]

/-- What is read of a text with a path behind it. -/
theorem kept_of_path_behind {path : List Char} (follows : IsPath path) (text : String) :
    withoutBreaks (trim (text ++ String.ofList path)) =
      withoutBreaks (text.toList.dropWhile (fun c => c.toNat ≤ 0x20)) ++ path := by
  have last : ∀ c ∈ (text.toList ++ path).getLast?, 0x20 < c.toNat := by
    intro c final
    rw [List.getLast?_append] at final
    cases finish : path.getLast? with
    | none =>
        have starts := follows.slash
        rw [List.getLast?_eq_none_iff.mp finish] at starts
        cases starts
    | some d =>
        rw [finish] at final
        cases final
        exact follows.visible _ (List.mem_of_getLast? finish)
  have trimmed := trim_append (fun c first => follows.visible c (List.mem_of_mem_head? first)) last
  rw [String.ofList_append, String.ofList_toList] at trimmed
  rw [trimmed, withoutBreaks, List.filter_append, ← withoutBreaks, ← withoutBreaks,
    withoutBreaks_of_visible follows.visible]

/-- A path behind the text of a URL of the web leaves its scheme and its authority as they are. -/
theorem parse_extended {text : String} {base : Url} {path : List Char}
    (parsed : parse text = .ok base) (web : styleOf base.scheme = .web)
    (noQuery : base.query = none) (noFragment : base.fragment = none)
    (ends : ∀ c ∈ text.toList.getLast?, 0x20 < c.toNat) (follows : IsPath path) :
    ∃ url, parse (withoutSlashes text ++ String.ofList path) = .ok url ∧
      url.scheme = base.scheme ∧ url.authority = base.authority ∧
      url.query = none ∧ url.fragment = none := by
  obtain ⟨slashes, whole, only⟩ := exists_slashes text
  have slash : ∀ c ∈ slashes.head?, c = '/' := fun c first => only c (List.mem_of_mem_head? first)
  -- Both texts are the same up to the slashes or the path at their ends.
  have after := kept_of_path_behind follows (withoutSlashes text)
  have before : withoutBreaks (trim text) =
      withoutBreaks ((withoutSlashes text).toList.dropWhile (fun c => c.toNat ≤ 0x20)) ++
        slashes := by
    have visible : ∀ c ∈ slashes, 0x20 < c.toNat := by
      intro c inside
      rw [only c inside]
      decide
    have trimmed : trim (String.ofList ((withoutSlashes text).toList ++ slashes)) = _ :=
      trim_append (fun c first => visible c (List.mem_of_mem_head? first)) (whole ▸ ends)
    rw [← whole, String.ofList_toList] at trimmed
    rw [trimmed, withoutBreaks, List.filter_append, ← withoutBreaks, ← withoutBreaks,
      withoutBreaks_of_visible visible]
  generalize withoutBreaks ((withoutSlashes text).toList.dropWhile _) = front at before after
  obtain ⟨rest, scheme⟩ := scheme_of_parse parsed
  rw [before] at scheme
  obtain ⟨inner, rfl, named⟩ := exists_scheme?_of_append slash scheme
  rw [parse_of_web web (before ▸ scheme)] at parsed
  obtain ⟨⟨host, behind⟩, authority, made⟩ := Sequencing.map_eq_ok_iff.mp parsed
  obtain ⟨kept, rfl, authorities⟩ := readAuthority_slash web only authority
  have starts : ∀ c ∈ path.head?, c = '/' := by
    rw [follows.slash]
    rintro _ ⟨⟩
    rfl
  have plain : Unmarked (kept ++ path) := by
    rw [← made] at noQuery noFragment
    have bare := unmarked_append_iff.mp (bare_assemble_iff.mp ⟨noQuery, noFragment⟩)
    exact unmarked_append_iff.mpr ⟨bare.1, follows.plain⟩
  refine ⟨⟨base.scheme, some host, pathAfterAuthority .web (kept ++ path), none, none⟩,
    (parse_of_web web (after ▸ scheme?_append named path)).trans ?_, rfl, ?_, rfl, rfl⟩
  · rw [authorities path starts]
    exact congrArg Except.ok (assemble_of_unmarked plain)
  · have same := congrArg Url.authority made
    exact same

end BridgeClient.Url
