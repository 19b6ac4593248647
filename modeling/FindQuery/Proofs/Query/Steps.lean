import FindQuery.Query.Assemble

namespace FindQuery

namespace QuerySpec

inductive Part where
  | condition
  | rawSelector
  | rawQuery
  | projection
  | source
  | orderBy
  | limit
  | offset
  | options
  | config
  deriving DecidableEq, Repr

def Step.part : Step → Part
  | .filter _ | .andFilter _ => .condition
  | .rawSelector _ => .rawSelector
  | .rawQuery _ _ => .rawQuery
  | .fields _ | .fieldsAs _ | .noFields => .projection
  | .source _ => .source
  | .orderBy _ _ => .orderBy
  | .limit _ => .limit
  | .offset _ => .offset
  | .timeout _ | .options _ => .options
  | .config _ => .config

theorem apply_comm (spec : QuerySpec) {first second : Step} (apart : first.part ≠ second.part) :
    (spec.apply first).apply second = (spec.apply second).apply first := by
  cases first <;> cases second <;> first | rfl | exact absurd rfl apart

theorem run_cons (spec : QuerySpec) (step : Step) (steps : List Step) :
    spec.run (step :: steps) = (spec.apply step).run steps := rfl

/-- What is cleared of a description is only set by the steps that are left out. -/
theorem run_cleared {clear : QuerySpec → QuerySpec} {keeps : Step → Bool}
    (each : ∀ spec step, clear (spec.apply step) = if keeps step then (clear spec).apply step else clear spec)
    (spec : QuerySpec) (steps : List Step) : clear (spec.run steps) = (clear spec).run (steps.filter keeps) := by
  induction steps generalizing spec with
  | nil => rfl
  | cons step rest ih =>
    rw [run_cons, ih, each, List.filter_cons]
    cases keeps step <;> rfl

theorem run_move (spec : QuerySpec) {step : Step} {before : List Step}
    (apart : ∀ other ∈ before, other.part ≠ step.part) (after : List Step) :
    spec.run (before ++ step :: after) = spec.run (step :: (before ++ after)) := by
  induction before generalizing spec with
  | nil => rfl
  | cons first rest ih =>
    obtain ⟨firstApart, restApart⟩ := List.forall_mem_cons.mp apart
    simp only [List.cons_append, run_cons] at ih ⊢
    rw [ih (spec.apply first) restApart, apply_comm spec firstApart]

theorem filter_move {step : Step} {before : List Step} (apart : ∀ other ∈ before, other.part ≠ step.part)
    (after : List Step) (part : Part) :
    (before ++ step :: after).filter (fun other => other.part = part) =
      (step :: (before ++ after)).filter fun other => other.part = part := by
  by_cases own : step.part = part
  · have none : before.filter (fun other => other.part = part) = [] := by
      rw [List.filter_eq_nil_iff]
      intro other member
      simpa [← own] using apart other member
    simp only [List.filter_append, List.filter_cons, none, List.nil_append]
  · simp [own]

/-- Two lists of steps that take the same steps for each part, in the same order, build the same description, however
the steps for different parts lie between one another. So the outcome of assembling is the same, too. -/
theorem run_eq_of_parts (spec : QuerySpec) {steps others : List Step}
    (same : ∀ part, steps.filter (fun step => step.part = part) = others.filter fun step => step.part = part) :
    spec.run steps = spec.run others := by
  induction steps generalizing spec others with
  | nil =>
    have none : others = [] := by
      refine List.eq_nil_iff_forall_not_mem.mpr fun step member => ?_
      have kept : step ∈ others.filter fun other => other.part = step.part := List.mem_filter.mpr ⟨member, by simp⟩
      rw [← same step.part] at kept
      cases kept
    rw [none]
  | cons step rest ih =>
    -- The first step that the others take for this part is the same one, and it may be taken first.
    have own := same step.part
    rw [List.filter_cons_of_pos (by simp), eq_comm, List.filter_eq_cons_iff] at own
    obtain ⟨before, after, rfl, apart, _, _⟩ := own
    have apart : ∀ other ∈ before, other.part ≠ step.part := by simpa using apart
    rw [run_move spec apart, run_cons, run_cons]
    refine ih (spec.apply step) fun part => ?_
    have parted := same part
    rw [filter_move apart, List.filter_cons, List.filter_cons] at parted
    split at parted
    · exact (List.cons.inj parted).2
    · exact parted

def configuredLast : List Step :=
  [.fields ["title"], .orderBy "year" .desc, .noFields, .orderBy "number" .asc, .andFilter .empty,
    .fieldsAs [("name", "title")], .config .standard, .config ⟨"number", "version"⟩]

def configuredFirst : List Step :=
  [.config .standard, .config ⟨"number", "version"⟩, .andFilter .empty, .orderBy "year" .desc, .fields ["title"],
    .noFields, .fieldsAs [("name", "title")], .orderBy "number" .asc]

theorem run_eq_of_parts_configured :
    (ofDatabase "films").run configuredLast = (ofDatabase "films").run configuredFirst ∧
      ∃ query, ((ofDatabase "films").run configuredLast).assemble = .ok query ∧
        query.fields = some ["number", "version", "title"] ∧
        query.selector.toJson =
          .ok (.object [("number", .object [("$gt", .null)]), ("year", .object [("$gt", .null)])]) := by
  have same : ∀ part, configuredLast.filter (fun step => step.part = part) =
      configuredFirst.filter fun step => step.part = part := by
    intro part
    cases part <;> rfl
  exact ⟨run_eq_of_parts (ofDatabase "films") same, _, rfl, rfl, rfl⟩

end QuerySpec

end FindQuery
