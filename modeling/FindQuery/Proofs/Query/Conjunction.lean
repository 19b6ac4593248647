import FindQuery.Proofs.Outcome
import FindQuery.Proofs.Query.Meaning

namespace FindQuery

theorem Condition.compileWith_of_isEmpty {accepts : String → Bool} {condition : Condition}
    (empty : condition.isEmpty = true) : condition.compileWith accepts = .ok .empty := by
  cases condition with
  | empty => rfl
  | hash pairs =>
    have none : pairs = [] := List.isEmpty_iff.mp empty
    rw [none]
    rfl
  | operation | raw => cases empty

namespace QuerySpec

def filteredBy (spec : QuerySpec) (conditions : List Condition) : QuerySpec :=
  spec.run (conditions.map Step.andFilter)

theorem filteredBy_eq (spec : QuerySpec) (conditions : List Condition) :
    spec.filteredBy conditions = { spec with condition := conditions.foldl conjoin spec.condition } := by
  induction conditions generalizing spec with
  | nil => rfl
  | cons condition rest ih => exact ih (spec.apply (.andFilter condition))

def conjoined (old : Condition) (first second : Selector) : Selector :=
  if old.isEmpty then second else .single "$and" (.array [first.toJson, second.toJson])

section

variable {accepts : String → Bool}

theorem compileWith_conjoin (old new : Condition) :
    (conjoin old new).compileWith accepts = (do
      let first ← old.compileWith accepts
      let second ← new.compileWith accepts
      return conjoined old first second) := by
  unfold conjoin conjoined
  split
  · next empty =>
    rw [Condition.compileWith_of_isEmpty empty]
    cases new.compileWith accepts <;> rfl
  · have both : (Condition.and [old, new]).compileWith accepts =
        (Operand.compileList accepts [.condition old, .condition new]).map Operator.and.group := rfl
    rw [both, Operand.compileList, Operand.compileList, Operand.compileList, Operand.compileWith,
      Operand.compileWith]
    cases old.compileWith accepts with
    | error error => rfl
    | ok first => cases new.compileWith accepts <;> rfl

theorem holds_conjoined {old : Condition} {first second : Selector} {reading : Reading} {doc : Json}
    (compiled : old.compileWith accepts = .ok first) :
    reading.Holds doc (conjoined old first second).toJson ↔
      reading.Holds doc first.toJson ∧ reading.Holds doc second.toJson := by
  unfold conjoined
  split
  · next empty =>
    rw [Condition.compileWith_of_isEmpty empty, Except.ok.injEq] at compiled
    subst compiled
    exact (and_iff_right reading.holds_empty).symm
  · exact reading.holds_conjunction

theorem compileWith_foldl_conjoin_eq_error_iff {old : Condition} {conditions : List Condition} {error : Error} :
    (conditions.foldl conjoin old).compileWith accepts = .error error ↔
      (old :: conditions).mapM (Condition.compileWith accepts) = .error error := by
  induction conditions generalizing old with
  | nil =>
    rw [List.foldl_nil, List.mapM_cons, bind_eq_error_iff]
    simp [List.mapM_nil, bind_eq_error_iff, pure, Except.pure]
  | cons new rest ih =>
    rw [List.foldl_cons, ih, List.mapM_cons, List.mapM_cons, List.mapM_cons, compileWith_conjoin]
    cases old.compileWith accepts with
    | error refused => rfl
    | ok first =>
      cases new.compileWith accepts with
      | error refused => rfl
      | ok second => cases rest.mapM (Condition.compileWith accepts) <;> simp [bind, Except.bind, pure, Except.pure]

theorem exists_compileWith_foldl_conjoin {old : Condition} {first : Selector} {conditions : List Condition}
    {fragments : List Selector} (compiled : old.compileWith accepts = .ok first)
    (each : List.Forall₂ (fun condition fragment => condition.compileWith accepts = .ok fragment)
      conditions fragments) :
    ∃ fragment, (conditions.foldl conjoin old).compileWith accepts = .ok fragment ∧
      ∀ (reading : Reading) doc, reading.Holds doc fragment.toJson ↔
        reading.Holds doc first.toJson ∧ ∀ part ∈ fragments, reading.Holds doc part.toJson := by
  induction each generalizing old first with
  | nil => exact ⟨first, compiled, by simp⟩
  | @cons new second rest fragments one _ ih =>
    have step : (conjoin old new).compileWith accepts = .ok (conjoined old first second) := by
      rw [compileWith_conjoin, compiled, one]
      rfl
    obtain ⟨fragment, whole, holds⟩ := ih step
    refine ⟨fragment, whole, fun reading doc => ?_⟩
    rw [holds, holds_conjoined compiled, List.forall_mem_cons, and_assoc]

end

theorem isEmpty_foldl_conjoin {old : Condition} {conditions : List Condition} (empty : old.isEmpty = true)
    (each : ∀ condition ∈ conditions, condition.isEmpty = true) :
    (conditions.foldl conjoin old).isEmpty = true := by
  induction conditions generalizing old with
  | nil => exact empty
  | cons new rest ih =>
    obtain ⟨first, others⟩ := List.forall_mem_cons.mp each
    have dropped : conjoin old new = new := if_pos empty
    rw [List.foldl_cons, dropped]
    exact ih first others

def defaultSelector (config : Config) : SelectorDoc :=
  .structured (.single config.primaryKey (.object [("$gt", .null)]))

/-- Conditions that are added to a description without one fail with the error of the first one that does. Else they
are compiled into what holds of a document just if each of their fragments does, in whatever way selectors are taken.
If none of them says anything, the default selector is used. -/
theorem filters_conjoined {spec : QuerySpec} (unfiltered : spec.condition.isEmpty = true)
    (accepts : String → Bool) (conditions : List Condition) :
    (∀ error, (spec.filteredBy conditions).condition.compileWith accepts = .error error ↔
      ∃ passed failing rest, conditions = passed ++ failing :: rest ∧
        (∀ other ∈ passed, ∃ fragment, other.compileWith accepts = .ok fragment) ∧
        failing.compileWith accepts = .error error) ∧
    (∀ fragments, List.Forall₂ (fun condition part => condition.compileWith accepts = .ok part) conditions fragments →
      ∃ fragment, (spec.filteredBy conditions).condition.compileWith accepts = .ok fragment ∧
        ∀ (reading : Reading) doc, reading.Holds doc fragment.toJson ↔
          ∀ part ∈ fragments, reading.Holds doc part.toJson) ∧
    ((∀ condition ∈ conditions, condition.isEmpty = true) →
      (spec.filteredBy conditions).condition.compileWith accepts = .ok .empty ∧
      (spec.rawSelector = none → ∃ query, (spec.filteredBy conditions).assembleWith accepts = .ok query ∧
        query.selector = (defaultSelector spec.config).withConstraints
          (constraints (unconstrained (defaultSelector spec.config) spec.orderBy)))) := by
  have start : spec.condition.compileWith accepts = .ok .empty := Condition.compileWith_of_isEmpty unfiltered
  rw [filteredBy_eq]
  refine ⟨fun error => ?_, fun fragments each => ?_, fun each => ?_⟩
  · rw [compileWith_foldl_conjoin_eq_error_iff, List.mapM_cons, start, ← mapM_eq_error_iff]
    cases conditions.mapM (Condition.compileWith accepts) <;> simp [bind, Except.bind, pure, Except.pure]
  · obtain ⟨fragment, compiled, holds⟩ := exists_compileWith_foldl_conjoin start each
    refine ⟨fragment, compiled, fun reading doc => ?_⟩
    rw [holds, and_iff_right reading.holds_empty]
  · have empty : (conditions.foldl conjoin spec.condition).isEmpty = true := isEmpty_foldl_conjoin unfiltered each
    refine ⟨Condition.compileWith_of_isEmpty empty, fun unselected => ?_⟩
    refine ⟨_, assembleWith_eq_ok (Condition.compileWith_of_isEmpty empty), ?_⟩
    simp only [compiledWith, unselected]
    rfl

def addedConditions : List Condition :=
  [.hash [], .raw (.structured (.object [])), .hash [("seen", .literal (.bool true))], .empty,
    .hash [("seen", .literal .null)]]

theorem filters_conjoined_added :
    (ofDatabase "films").condition.isEmpty = true ∧
      ∃ fragment, ((ofDatabase "films").filteredBy addedConditions).condition.compile = .ok fragment ∧
        (fieldEvaluator.Holds seenFilm fragment.toJson ↔
          ∀ part ∈ [.empty, .empty, seenFragment, .empty, .single "seen" .null],
            fieldEvaluator.Holds seenFilm (Selector.toJson part)) := by
  have each : List.Forall₂ (fun condition part => condition.compileWith Pattern.accepts = .ok part) addedConditions
      [.empty, .empty, seenFragment, .empty, .single "seen" .null] :=
    .cons rfl (.cons rfl (.cons rfl (.cons rfl (.cons rfl .nil))))
  have unfiltered : (ofDatabase "films").condition.isEmpty = true := rfl
  obtain ⟨_, conjunction, _⟩ := filters_conjoined unfiltered Pattern.accepts addedConditions
  obtain ⟨fragment, compiled, holds⟩ := conjunction _ each
  exact ⟨unfiltered, fragment, compiled, holds fieldEvaluator.reading seenFilm⟩

end QuerySpec

end FindQuery
