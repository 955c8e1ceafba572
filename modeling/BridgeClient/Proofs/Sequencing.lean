set_option autoImplicit false

/-! Steps that may fail, one after the other: when all succeed, and whose error is reported. -/
namespace BridgeClient.Sequencing

variable {α β ε : Type}

theorem bind_eq_ok_iff {first : Except ε α} {next : α → Except ε β} {value : β} :
    first >>= next = .ok value ↔ ∃ a, first = .ok a ∧ next a = .ok value := by
  cases first <;> simp [bind, Except.bind]

theorem bind_eq_error_iff {first : Except ε α} {next : α → Except ε β} {reason : ε} :
    first >>= next = .error reason ↔
      first = .error reason ∨ ∃ a, first = .ok a ∧ next a = .error reason := by
  cases first <;> simp [bind, Except.bind]

theorem map_eq_ok_iff {step : Except ε α} {next : α → β} {value : β} :
    step.map next = .ok value ↔ ∃ a, step = .ok a ∧ next a = value := by
  cases step <;> simp [Except.map]

theorem mapError_eq_ok_iff {φ : Type} {step : Except ε α} {wrap : ε → φ} {value : α} :
    step.mapError wrap = .ok value ↔ step = .ok value := by
  cases step <;> constructor <;> intro same <;> cases same <;> rfl

theorem toOption_eq_some_iff {step : Except ε α} {value : α} :
    step.toOption = some value ↔ step = .ok value := by
  cases step with
  | error reason => constructor <;> intro same <;> cases same
  | ok found =>
      constructor
      · intro same
        cases same
        rfl
      · intro same
        cases same
        rfl

theorem toOption_eq_none_iff {step : Except ε α} :
    step.toOption = none ↔ ∃ reason, step = .error reason := by
  cases step with
  | error reason => exact ⟨fun _ => ⟨reason, rfl⟩, fun _ => rfl⟩
  | ok value =>
      constructor
      · intro same
        cases same
      · rintro ⟨reason, same⟩
        cases same

/-- What did not fail gave a value. -/
theorem exists_ok_of_forall_ne_error {step : Except ε α}
    (sound : ∀ reason, step ≠ .error reason) : ∃ value, step = .ok value := by
  cases step with
  | ok value => exact ⟨value, rfl⟩
  | error reason => exact absurd rfl (sound reason)

theorem exists_error_iff {step : Except ε α} :
    (∃ reason, step = .error reason) ↔ ¬ ∃ value, step = .ok value := by
  cases step <;> simp

theorem mapM_eq_ok_map {step : α → Except ε β} {value : α → β} {items : List α}
    (steps : ∀ item ∈ items, step item = .ok (value item)) :
    items.mapM step = .ok (items.map value) := by
  induction items with
  | nil => rfl
  | cons item rest ih =>
      have first := steps item (List.mem_cons_self ..)
      have others := ih fun other inside => steps other (List.mem_cons_of_mem _ inside)
      rw [List.mapM_cons, first, others]
      rfl

/-- A walk over a list succeeds when every step does. -/
theorem mapM_eq_ok_iff {step : α → Except ε β} {items : List α} {values : List β} :
    items.mapM step = .ok values ↔ items.map step = values.map .ok := by
  induction items generalizing values with
  | nil => cases values <;> simp [pure, Except.pure]
  | cons item rest ih =>
      simp only [List.mapM_cons, bind_eq_ok_iff, List.map_cons]
      constructor
      · intro walked
        obtain ⟨value, first, others, remaining, whole⟩ := walked
        cases whole
        rw [first, ih.mp remaining, List.map_cons]
      · intro whole
        cases values with
        | nil => cases whole
        | cons value others =>
            simp only [List.map_cons, List.cons.injEq] at whole
            exact ⟨value, whole.1, others, ih.mpr whole.2, rfl⟩

/-- The error of a walk is that of the first step that fails. -/
theorem mapM_eq_error_iff {step : α → Except ε β} {items : List α} {reason : ε} :
    items.mapM step = .error reason ↔
      ∃ before item after, items = before ++ item :: after ∧
        (∀ other ∈ before, ∃ value, step other = .ok value) ∧ step item = .error reason := by
  induction items with
  | nil => simp [pure, Except.pure]
  | cons first rest ih =>
      rw [List.mapM_cons, bind_eq_error_iff]
      constructor
      · intro failed
        rcases failed with failed | ⟨value, passed, failed⟩
        · exact ⟨[], first, rest, rfl, by simp, failed⟩
        · rcases bind_eq_error_iff.mp failed with failed | ⟨values, _, failed⟩
          · obtain ⟨before, item, after, rfl, passing, failing⟩ := ih.mp failed
            refine ⟨first :: before, item, after, rfl, ?_, failing⟩
            intro other inside
            rcases List.mem_cons.mp inside with rfl | inside
            · exact ⟨value, passed⟩
            · exact passing other inside
          · cases failed
      · intro split
        obtain ⟨before, item, after, whole, passing, failing⟩ := split
        cases before with
        | nil =>
            cases whole
            exact Or.inl failing
        | cons head before =>
            cases whole
            obtain ⟨value, passed⟩ := passing first (List.mem_cons_self ..)
            refine Or.inr ⟨value, passed, bind_eq_error_iff.mpr (Or.inl (ih.mpr ?_))⟩
            exact ⟨before, item, after, rfl,
              fun other inside => passing other (List.mem_cons_of_mem _ inside), failing⟩

/-- A table of answers is complete when every item has one. -/
theorem exists_map_eq_map_iff {γ : Type} {items : List α} {answer : α → γ} {wrap : β → γ} :
    (∃ values : List β, items.map answer = values.map wrap) ↔
      ∀ item ∈ items, ∃ value, answer item = wrap value := by
  constructor
  · intro complete item inside
    obtain ⟨values, complete⟩ := complete
    have entry : answer item ∈ values.map wrap := complete ▸ List.mem_map_of_mem inside
    obtain ⟨value, _, same⟩ := List.mem_map.mp entry
    exact ⟨value, same.symm⟩
  · intro every
    induction items with
    | nil => exact ⟨[], rfl⟩
    | cons item rest ih =>
        obtain ⟨value, first⟩ := every item (List.mem_cons_self ..)
        obtain ⟨values, others⟩ :=
          ih fun other inside => every other (List.mem_cons_of_mem _ inside)
        exact ⟨value :: values, by rw [List.map_cons, List.map_cons, first, others]⟩

end BridgeClient.Sequencing
