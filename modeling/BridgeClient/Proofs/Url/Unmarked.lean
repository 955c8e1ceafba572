import BridgeClient.Proofs.Url.Extending

set_option autoImplicit false

/-!
The marks of a query and a fragment. A URL of the web has neither part just if neither mark stands
in its text, so a text put behind it that has no mark gives it none.
-/
namespace BridgeClient.Url

open UrlPath

variable {scheme cs rest : List Char}

/-- What all characters of a text do and no mark does tells that it has no mark. -/
theorem unmarked_of_forall {p : Char → Bool} (query : p '?' = false) (fragment : p '#' = false)
    (every : ∀ c ∈ cs, p c = true) : Unmarked cs :=
  ⟨fun inside => Bool.eq_false_iff.mp query (every _ inside),
    fun inside => Bool.eq_false_iff.mp fragment (every _ inside)⟩

/-- The marks stand behind the scheme, if they stand anywhere. -/
theorem unmarked_of_scheme? (read : scheme? cs = some (scheme, rest)) :
    Unmarked cs ↔ Unmarked rest := by
  obtain ⟨_, colon, _⟩ := scheme?_eq_some_iff.mp read
  have whole := List.takeWhile_append_dropWhile (p := continuesScheme) (l := cs)
  rw [colon, List.append_cons] at whole
  have named : Unmarked (cs.takeWhile continuesScheme) :=
    unmarked_of_forall rfl rfl fun _ => List.mem_takeWhile_imp
  have front : Unmarked (cs.takeWhile continuesScheme ++ [':']) :=
    unmarked_append_iff.mpr ⟨named, by simp [Unmarked]⟩
  rw [← whole, unmarked_append_iff, and_iff_right front]

/-- They stand behind the authority, too. -/
theorem unmarked_of_readAuthority (web : styleOf scheme = .web) {host behind : List Char}
    (read : readAuthority scheme (rest.dropWhile (isSeparator .web)) = .ok (host, behind)) :
    Unmarked rest ↔ Unmarked behind := by
  have whole := List.takeWhile_append_dropWhile (p := isSeparator .web) (l := rest)
  have slashes : Unmarked (rest.takeWhile (isSeparator .web)) :=
    unmarked_of_forall rfl rfl fun _ => List.mem_takeWhile_imp
  generalize rest.dropWhile (isSeparator .web) = others at read whole
  obtain ⟨own, outside, rfl, bounded⟩ := exists_bounded others
  rw [readAuthority_append web bounded] at read
  obtain ⟨_, _, same⟩ := Sequencing.map_eq_ok_iff.mp read
  cases same
  have inner : Unmarked own :=
    unmarked_of_forall (p := fun c => !endsAuthority .web c) rfl rfl fun c inside => by
      rw [bounded.inside c inside, Bool.not_false]
  rw [← whole, unmarked_append_iff, unmarked_append_iff, and_iff_right slashes,
    and_iff_right inner]

/-- Visible characters are neither trimmed nor taken for breaks. -/
theorem mem_kept_iff {text : String} {c : Char} (visible : 0x20 < c.toNat) :
    c ∈ withoutBreaks (trim text) ↔ c ∈ text.toList := by
  have stays (cs : List Char) : c ∈ cs.dropWhile (fun c => c.toNat ≤ 0x20) ↔ c ∈ cs := by
    refine ⟨fun inside => (List.dropWhile_suffix _).subset inside, fun inside => ?_⟩
    rw [← List.takeWhile_append_dropWhile (p := fun c : Char => c.toNat ≤ 0x20) (l := cs)] at inside
    refine (List.mem_append.mp inside).resolve_left fun dropped => ?_
    have blank := List.mem_takeWhile_imp dropped
    simp only [decide_eq_true_eq] at blank
    omega
  rw [withoutBreaks, List.mem_filter, isBreak_of_visible visible, Bool.not_false,
    and_iff_left rfl, trim, List.mem_reverse, stays, List.mem_reverse, stays]

/-- A URL of the web has neither a query nor a fragment just if its text has neither mark. -/
theorem bare_iff_of_parse {text : String} {url : Url} (parsed : parse text = .ok url)
    (web : styleOf url.scheme = .web) :
    url.query = none ∧ url.fragment = none ↔ Unmarked text.toList := by
  obtain ⟨rest, scheme⟩ := scheme_of_parse parsed
  rw [parse_of_web web scheme] at parsed
  obtain ⟨⟨host, behind⟩, authority, made⟩ := Sequencing.map_eq_ok_iff.mp parsed
  have kept : Unmarked (withoutBreaks (trim text)) ↔ Unmarked text.toList := by
    rw [Unmarked, mem_kept_iff (by decide), mem_kept_iff (by decide), ← Unmarked]
  rw [← kept, unmarked_of_scheme? scheme, unmarked_of_readAuthority web authority,
    ← bare_assemble_iff, made]

/-! ## A path put behind a text -/

/-- A path behind a text leaves the scheme as it is, even if the text ends with blanks. -/
theorem scheme_of_path_behind {text : String} {base url : Url} {path : List Char}
    (parsed : parse text = .ok base) (follows : IsPath path)
    (read : parse (text ++ String.ofList path) = .ok url) : url.scheme = base.scheme := by
  obtain ⟨rest, scheme⟩ := scheme_of_parse parsed
  obtain ⟨others, found⟩ := scheme_of_parse read
  obtain ⟨blanks, whole⟩ : ∃ blanks,
      text.toList.dropWhile (fun c => c.toNat ≤ 0x20) = trim text ++ blanks := by
    refine ⟨((text.toList.dropWhile fun c => c.toNat ≤ 0x20).reverse.takeWhile
      fun c => c.toNat ≤ 0x20).reverse, ?_⟩
    rw [trim, ← List.reverse_append, List.takeWhile_append_dropWhile, List.reverse_reverse]
  rw [kept_of_path_behind follows, whole, withoutBreaks, List.filter_append, ← withoutBreaks,
    List.append_assoc, scheme?_append scheme] at found
  exact (congrArg Prod.fst (Option.some.inj found)).symm

theorem withoutSlashes_of_last {text : String} {c : Char} (last : c ∈ text.toList.getLast?)
    (noSlash : c ≠ '/') : withoutSlashes text = text := by
  have kept : text.toList.reverse.dropWhile (· = '/') = text.toList.reverse := by
    rw [← List.head?_reverse] at last
    cases final : text.toList.reverse with
    | nil => rfl
    | cons d rest =>
        rw [final] at last
        cases last
        simp [noSlash]
  rw [withoutSlashes, kept, List.reverse_reverse, String.ofList_toList]

/-- A path behind a URL of the web without query and fragment gives it neither. -/
theorem bare_of_path_behind {text : String} {base url : Url} {path : List Char}
    (parsed : parse text = .ok base) (web : styleOf base.scheme = .web)
    (noQuery : base.query = none) (noFragment : base.fragment = none) (follows : IsPath path)
    (read : parse (withoutSlashes text ++ String.ofList path) = .ok url) :
    url.query = none ∧ url.fragment = none := by
  by_cases ends : ∀ c ∈ text.toList.getLast?, 0x20 < c.toNat
  · obtain ⟨found, extended, _, _, bare⟩ :=
      parse_extended parsed web noQuery noFragment ends follows
    cases read.symm.trans extended
    exact bare
  · obtain ⟨c, last, blank⟩ : ∃ c ∈ text.toList.getLast?, ¬ 0x20 < c.toNat := by
      simpa only [not_forall, exists_prop] using ends
    have noSlash : c ≠ '/' := by
      rintro rfl
      exact blank (by decide)
    rw [withoutSlashes_of_last last noSlash] at read
    have scheme := scheme_of_path_behind parsed follows read
    have whole : Unmarked (text ++ String.ofList path).toList := by
      rw [String.toList_append, String.toList_ofList, unmarked_append_iff]
      exact ⟨(bare_iff_of_parse parsed web).mp ⟨noQuery, noFragment⟩, follows.plain⟩
    exact (bare_iff_of_parse read (scheme ▸ web)).mpr whole

end BridgeClient.Url
