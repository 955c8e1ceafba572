import BridgeClient.Document.Record
import Mathlib.Data.List.Forall2

set_option autoImplicit false

/-!
How a document lays out a record: as a table that has an entry for each field, or as the list of the
fields in order.
-/
namespace BridgeClient.Document

/-- What a table has under a name: the value of the only entry with that name, or nothing. -/
inductive Has (entries : List (String × Document)) (name : String) : Field → Prop
  | given {value : Document}
      (once : entries.filter (fun entry => entry.1 = name) = [(name, value)]) :
      Has entries name (.given value)
  | absent (missing : ∀ entry ∈ entries, entry.1 ≠ name) : Has entries name .absent

/-- What a document has for the fields of a record. -/
inductive LaysOut (dialect : Dialect) (names : List String) : Document → List Field → Prop
  | table {entries : List (String × Document)} {fields : List Field}
      (each : List.Forall₂ (Has entries) names fields) :
      LaysOut dialect names (.table entries) fields
  | list {elements : List Document}
      (fits : elements.length ≤ names.length ∨ dialect.allowsSurplus = true) :
      LaysOut dialect names (.list elements)
        ((elements.map Field.given).take names.length ++
          List.replicate (names.length - elements.length) .beyond)

theorem mapM_eq_some_iff {α β : Type} {step : α → Option β} {items : List α} {values : List β} :
    items.mapM step = some values ↔
      List.Forall₂ (fun item value => step item = some value) items values := by
  induction items generalizing values with
  | nil => cases values <;> simp
  | cons item rest ih =>
      rw [List.mapM_cons, List.forall₂_cons_left_iff]
      simp only [Option.bind_eq_bind, Option.bind_eq_some_iff, ih, Option.pure_def,
        Option.some.injEq]
      constructor
      · rintro ⟨value, first, others, remaining, rfl⟩
        exact ⟨value, others, first, remaining, rfl⟩
      · rintro ⟨value, others, first, remaining, rfl⟩
        exact ⟨value, first, others, remaining, rfl⟩

variable {entries : List (String × Document)} {name : String}

theorem has_iff {field : Field} :
    (match entries.filter fun entry => entry.1 = name with
      | [] => some Field.absent
      | [(_, value)] => some (.given value)
      | _ => none) = some field ↔ Has entries name field := by
  have named : ∀ entry ∈ entries.filter (fun entry => entry.1 = name), entry.1 = name := by
    intro entry inside
    simpa using (List.mem_filter.mp inside).2
  constructor
  · intro found
    split at found
    · rename_i empty
      cases found
      apply Has.absent
      intro entry inside
      simpa using List.filter_eq_nil_iff.mp empty entry inside
    · rename_i first value once
      cases found
      have same : first = name := named (first, value) (by simp [once])
      exact .given (same ▸ once)
    · cases found
  · intro has
    cases has with
    | given once => rw [once]
    | absent missing =>
        have empty : entries.filter (fun entry => entry.1 = name) = [] := by
          rw [List.filter_eq_nil_iff]
          simpa using missing
        rw [empty]

theorem fields?_list (dialect : Dialect) (names : List String) (elements : List Document) :
    fields? dialect names (list elements) =
      if names.length < elements.length && !dialect.allowsSurplus then none
      else some ((elements.map Field.given).take names.length ++
        List.replicate (names.length - elements.length) .beyond) := by
  rw [fields?]
  congr 2
  apply List.ext_getElem (by simp; omega)
  intro i left right
  rw [List.getElem_map, List.getElem_zipIdx]
  by_cases held : i < elements.length
  · rw [List.getElem_append_left (by simp at left ⊢; omega)]
    simp [held]
  · rw [List.getElem_append_right (by simp; omega)]
    simp [held]

theorem fields?_eq_some_iff {dialect : Dialect} {names : List String} {document : Document}
    {fields : List Field} :
    fields? dialect names document = some fields ↔ LaysOut dialect names document fields := by
  constructor
  · intro found
    cases document with
    | table entries => exact .table ((mapM_eq_some_iff.mp found).imp fun _ _ => has_iff.mp)
    | list elements =>
        rw [fields?_list] at found
        split at found
        · cases found
        · rename_i fits
          cases found
          apply LaysOut.list
          simpa [or_iff_not_imp_left] using fits
    | _ => cases found
  · intro laid
    cases laid with
    | table each => exact mapM_eq_some_iff.mpr (each.imp fun _ _ => has_iff.mpr)
    | list fits =>
        rw [fields?_list, if_neg]
        simpa [or_iff_not_imp_left] using fits

theorem Field.required_eq_some_iff {α : Type} {read : Document → Option α} {field : Field}
    {value : α} : field.required read = some value ↔
      ∃ document, field = .given document ∧ read document = some value := by
  cases field <;> simp [Field.required]

theorem Field.optional_given {α : Type} {read : Document → Option α} {document : Document}
    (something : document ≠ .null) :
    (Field.given document).optional read = (read document).map some := by
  cases document <;> first | rfl | exact absurd rfl something

theorem asText_eq_some_iff {document : Document} {value : String} :
    asText document = some value ↔ document = .text value := by
  cases document <;> simp [asText]

theorem asFlag_eq_some_iff {document : Document} {value : Bool} :
    asFlag document = some value ↔ document = .flag value := by
  cases document <;> simp [asFlag]

end BridgeClient.Document
