import Mathlib.Data.List.Forall2
import FindQuery.Error

namespace FindQuery

theorem bind_eq_ok_iff {α β : Type} {first : Except Error α} {next : α → Except Error β} {result : β} :
    (first >>= next) = .ok result ↔ ∃ value, first = .ok value ∧ next value = .ok result := by
  cases first <;> simp [bind, Except.bind]

theorem bind_eq_error_iff {α β : Type} {first : Except Error α} {next : α → Except Error β} {error : Error} :
    (first >>= next) = .error error ↔
      first = .error error ∨ ∃ value, first = .ok value ∧ next value = .error error := by
  cases first <;> simp [bind, Except.bind]

theorem map_eq_ok_iff {α β : Type} {change : α → β} {outcome : Except Error α} {result : β} :
    outcome.map change = .ok result ↔ ∃ value, outcome = .ok value ∧ change value = result := by
  cases outcome <;> simp [Except.map]

theorem map_eq_error_iff {α β : Type} {change : α → β} {outcome : Except Error α} {error : Error} :
    outcome.map change = .error error ↔ outcome = .error error := by
  cases outcome <;> simp [Except.map]

theorem map_eq_ok_unit_iff {α : Type} {outcome : Except Error α} :
    outcome.map (fun _ => ()) = .ok () ↔ ∃ value, outcome = .ok value := by
  cases outcome <;> simp [Except.map]

theorem mapM_eq_ok_iff {α β : Type} {read : α → Except Error β} {items : List α} {results : List β} :
    items.mapM read = .ok results ↔ List.Forall₂ (fun item result => read item = .ok result) items results := by
  induction items generalizing results with
  | nil => cases results <;> simp [pure, Except.pure]
  | cons item rest ih =>
    simp only [List.mapM_cons, bind_eq_ok_iff, pure, Except.pure, Except.ok.injEq, List.forall₂_cons_left_iff, ih]
    constructor
    · rintro ⟨first, one, others, more, rfl⟩
      exact ⟨first, others, one, more, rfl⟩
    · rintro ⟨first, others, one, more, rfl⟩
      exact ⟨first, one, others, more, rfl⟩

theorem mapM_eq_error_iff {α β : Type} {read : α → Except Error β} {items : List α} {error : Error} :
    items.mapM read = .error error ↔
      ∃ passed item rest, items = passed ++ item :: rest ∧ (∀ other ∈ passed, ∃ result, read other = .ok result) ∧
        read item = .error error := by
  induction items with
  | nil => simp [pure, Except.pure]
  | cons first others ih =>
    simp only [List.mapM_cons, bind_eq_error_iff, pure, Except.pure, reduceCtorEq, and_false, exists_false,
      or_false, ih]
    constructor
    · rintro (refused | ⟨result, one, passed, item, rest, rfl, before, refused⟩)
      · exact ⟨[], first, others, rfl, List.forall_mem_nil _, refused⟩
      · exact ⟨first :: passed, item, rest, rfl, List.forall_mem_cons.mpr ⟨⟨result, one⟩, before⟩, refused⟩
    · rintro ⟨passed, item, rest, same, before, refused⟩
      cases passed with
      | nil =>
        cases same
        exact .inl refused
      | cons head passed =>
        cases same
        obtain ⟨⟨result, one⟩, before⟩ := List.forall_mem_cons.mp before
        exact .inr ⟨result, one, passed, item, rest, rfl, before, refused⟩

/-- Two outcomes that are related results, or errors of one kind. -/
inductive Alike {α β : Type} (related : α → β → Prop) : Except Error α → Except Error β → Prop
  | ok {result : α} {other : β} (results : related result other) : Alike related (.ok result) (.ok other)
  | error {error other : Error} (kinds : error.kind = other.kind) : Alike related (.error error) (.error other)

theorem Alike.refl {α : Type} (outcome : Except Error α) : Alike Eq outcome outcome := by
  cases outcome with
  | ok result => exact .ok rfl
  | error error => exact .error rfl

namespace Alike

variable {α β γ δ : Type} {related : α → β → Prop} {followed : γ → δ → Prop}
  {first : Except Error α} {other : Except Error β}

theorem bind {next : α → Except Error γ} {otherNext : β → Except Error δ} (alike : Alike related first other)
    (thenAlike : ∀ {result otherResult}, related result otherResult →
      Alike followed (next result) (otherNext otherResult)) :
    Alike followed (first >>= next) (other >>= otherNext) := by
  cases alike with
  | ok results => exact thenAlike results
  | error kinds => exact .error kinds

theorem map {change : α → γ} {otherChange : β → δ} (alike : Alike related first other)
    (kept : ∀ {result otherResult}, related result otherResult →
      followed (change result) (otherChange otherResult)) :
    Alike followed (first.map change) (other.map otherChange) := by
  cases alike with
  | ok results => exact .ok (kept results)
  | error kinds => exact .error kinds

end Alike

end FindQuery
