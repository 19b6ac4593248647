import FindQuery.Proofs.Condition.Faults
import FindQuery.Proofs.Query.Constraints

namespace FindQuery

/-- Computations that may fail and that log. What is logged before a failure stays in the log. -/
abbrev Logging := ExceptT Error (StateM (List LogEvent))

namespace Logging

variable {α β : Type}

def log (event : LogEvent) : Logging Unit := modify fun events => events ++ [event]

def Yields (program : Logging α) (value : α) (events : List LogEvent) : Prop :=
  ∀ before, program.run.run before = (.ok value, before ++ events)

theorem yields_pure (value : α) : Yields (pure value) value [] := by
  intro before
  rw [List.append_nil]
  rfl

theorem yields_log (event : LogEvent) : Yields (log event) () [event] := fun _ => rfl

theorem Yields.bind {program : Logging α} {next : α → Logging β} {value : α} {result : β}
    {events more : List LogEvent} (first : Yields program value events) (second : Yields (next value) result more) :
    Yields (program >>= next) result (events ++ more) := by
  intro before
  have one : program before = (.ok value, before ++ events) := first before
  -- Running both is by definition to go on from the value and the log that the first one leaves.
  calc (ExceptT.bindCont next (program before).1) (program before).2
      = (next value).run.run (before ++ events) := by rw [one]; rfl
    _ = (.ok result, before ++ events ++ more) := second (before ++ events)
    _ = (.ok result, before ++ (events ++ more)) := by rw [List.append_assoc]

end Logging

namespace QuerySpec

def injectConstraint (doc : SelectorDoc) (injected : Selector) (sort : SortSpec) : Logging Selector :=
  if doc.constrains sort.field || injected.hasKey sort.field then pure injected
  else do
    Logging.log (.injecting sort.field)
    pure (injected.insert sort.field existenceConstraint)

def assembleInSteps (accepts : String → Bool) (spec : QuerySpec) : Logging CompiledQuery := do
  let compiled ← ExceptT.mk (pure (spec.condition.compileWith accepts))
  let doc := composed spec.config spec.rawSelector compiled
  let injected ← spec.orderBy.foldlM (injectConstraint doc) .empty
  let query := { spec.compiledWith compiled with selector := doc.withConstraints injected }
  Logging.log (.compiled query.database (query.selector.asSelector?.map Selector.keys) spec.orderBy.length query.limit
    query.skip)
  pure query

theorem yields_injectConstraint (doc : SelectorDoc) (sorts : List SortSpec) (sort : SortSpec) :
    ∃ events,
      Logging.Yields (injectConstraint doc (constraints (unconstrained doc sorts)) sort)
        (constraints (unconstrained doc (sorts ++ [sort]))) events ∧
      (unconstrained doc (sorts ++ [sort])).map LogEvent.injecting =
        (unconstrained doc sorts).map LogEvent.injecting ++ events := by
  rw [injectConstraint, hasKey_constraints, unconstrained_concat]
  split
  · exact ⟨_, Logging.yields_pure _, (List.append_nil _).symm⟩
  · rw [constraints_concat, List.map_append]
    exact ⟨_, (Logging.yields_log _).bind (Logging.yields_pure _), rfl⟩

theorem yields_foldlM_injectConstraint (doc : SelectorDoc) (orderBy : List SortSpec) :
    Logging.Yields (orderBy.foldlM (injectConstraint doc) .empty) (constraints (unconstrained doc orderBy))
      ((unconstrained doc orderBy).map LogEvent.injecting) := by
  -- From the end, where the last sort field finds the constraints of all those before it.
  induction orderBy using List.reverseRecOn with
  | nil => exact Logging.yields_pure _
  | append_singleton sorts sort ih =>
    obtain ⟨events, last, logged⟩ := yields_injectConstraint doc sorts sort
    rw [List.foldlM_append, logged]
    exact ih.bind (by simpa using last)

/-- What the steps leave is the query and, behind what was there, the events that go with it. An error leaves the log
as it was. -/
theorem assembleInSteps_run (accepts : String → Bool) (spec : QuerySpec) (before : List LogEvent) :
    (spec.assembleInSteps accepts).run.run before =
      match spec.assembleLoggedWith accepts with
      | .ok (query, events) => (.ok query, before ++ events)
      | .error error => (.error error, before) := by
  unfold assembleInSteps assembleLoggedWith
  cases compiled : spec.condition.compileWith accepts with
  | error error => rfl
  | ok fragment =>
    let doc := composed spec.config spec.rawSelector fragment
    have injected := yields_foldlM_injectConstraint doc spec.orderBy
    exact injected.bind ((Logging.yields_log _).bind (Logging.yields_pure (spec.compiledWith fragment))) before

end QuerySpec

theorem Condition.isCompileError_of_ofJson {value : Json} {error : Error}
    (refused : Condition.ofJson value = .error error) : error.isCompileError = true := by
  obtain ⟨cause, rfl⟩ := Condition.malformed_of_ofJson refused
  rfl

theorem Condition.isCompileError_of_compileWith {accepts : String → Bool} {condition : Condition} {error : Error}
    (failed : condition.compileWith accepts = .error error) : error.isCompileError = true := by
  obtain ⟨node, _, fault⟩ := (condition.judged.refused error |>.mp failed).exists_node
  exact fault.isCompileError

theorem SelectorDoc.toJson_eq_error_iff {doc : SelectorDoc} {error : Error} :
    doc.toJson = .error error ↔
      ∃ source, doc = .text source ∧ Json.parse? source = none ∧ error = .serialization (.notJson source) := by
  cases doc with
  | text source => cases read : Json.parse? source <;> simp [toJson, read, eq_comm]
  | _ => simp [toJson]

theorem CompiledQuery.body_eq_error_iff {query : CompiledQuery} {error : Error} :
    query.body = .error error ↔
      ∃ source, query.selector = .text source ∧ Json.parse? source = none ∧
        error = .serialization (.notJson source) := by
  rw [body, map_eq_error_iff, SelectorDoc.toJson_eq_error_iff]

namespace QuerySpec

theorem assembleWith_eq_error_iff {accepts : String → Bool} {spec : QuerySpec} {error : Error} :
    spec.assembleWith accepts = .error error ↔ spec.condition.compileWith accepts = .error error := by
  rw [assembleWith, map_eq_error_iff, assembleLoggedWith, map_eq_error_iff]

/-- A query is assembled exactly if its condition is compiled, whatever the raw selector is. Otherwise the error is that
of the condition, and nothing is logged. No condition is read or compiled with an error that is not one of compiling,
and making the body of a query, or its text, fails with no such error. -/
theorem assemble_outcome (accepts : String → Bool) (spec : QuerySpec) :
    (∀ error, spec.assembleWith accepts = .error error ↔ spec.condition.compileWith accepts = .error error) ∧
    (∀ error, spec.assembleWith accepts = .error error →
      error.isCompileError = true ∧ ∀ before, (spec.assembleInSteps accepts).run.run before = (.error error, before)) ∧
    (∀ fragment, spec.condition.compileWith accepts = .ok fragment →
      ∀ raw, ∃ query, ({ spec with rawSelector := raw } : QuerySpec).assembleWith accepts = .ok query) ∧
    (∀ before, (spec.assembleInSteps accepts).run.run before =
      match spec.assembleLoggedWith accepts with
      | .ok (query, events) => (.ok query, before ++ events)
      | .error error => (.error error, before)) ∧
    (∀ value error, Condition.ofJson value = .error error → error.isCompileError = true) ∧
    (∀ condition error, Condition.compileWith accepts condition = .error error → error.isCompileError = true) ∧
    (∀ (query : CompiledQuery) error, query.body = .error error →
      error.isCompileError = false ∧
        ∃ source, query.selector = .text source ∧ Json.parse? source = none ∧
          error = .serialization (.notJson source)) ∧
    (∀ (query : CompiledQuery) error, query.bodyText = .error error ↔ query.body = .error error) := by
  refine ⟨fun _ => assembleWith_eq_error_iff, ?_, ?_, assembleInSteps_run accepts spec,
    fun _ _ => Condition.isCompileError_of_ofJson, fun _ _ => Condition.isCompileError_of_compileWith, ?_,
    fun _ _ => map_eq_error_iff⟩
  · intro error failed
    refine ⟨Condition.isCompileError_of_compileWith (assembleWith_eq_error_iff.mp failed), fun before => ?_⟩
    have logged : spec.assembleLoggedWith accepts = .error error := map_eq_error_iff.mp failed
    rw [assembleInSteps_run, logged]
  · intro fragment compiled raw
    exact ⟨_, assembleWith_eq_ok compiled⟩
  · intro query error failed
    obtain ⟨source, text, unread, rfl⟩ := CompiledQuery.body_eq_error_iff.mp failed
    exact ⟨rfl, source, text, unread, rfl⟩

example : ∃ query, ((ofDatabase "films").run [.rawSelector (.text "\x7b"), .filter .empty]).assemble = .ok query ∧
    query.body = .error (.serialization (.notJson "\x7b")) := ⟨_, rfl, rfl⟩

end QuerySpec

end FindQuery
