import FindQuery.Proofs.Query.Constraints

namespace FindQuery.QuerySpec

open Evaluator
open SelectorDoc (withConstraints_structured)

variable {accepts : String → Bool} {evaluator : Evaluator} {doc : Json}

def base (config : Config) (raw : Option Selector) (fragment : Selector) : Selector :=
  match raw with
  | some own => if fragment.isEmpty then own else .single "$and" (.array [own.toJson, fragment.toJson])
  | none => if fragment.isEmpty then .single config.primaryKey (.object [("$gt", .null)]) else fragment

theorem composed_eq_base (config : Config) (raw : Option Selector) (fragment : Selector) :
    composed config (raw.map fun own => .structured own.toJson) fragment = .structured (base config raw fragment) := by
  cases raw with
  | none => rfl
  | some own =>
    simp only [Option.map_some, composed, base]
    split
    · exact congrArg SelectorDoc.structured (Selector.ofFields_entries own)
    · rfl

theorem toJson_of_isEmpty {selector : Selector} (empty : selector.isEmpty = true) :
    selector.toJson = .object [] :=
  congrArg Json.object (List.isEmpty_iff.mp empty)

theorem holds_of_isEmpty {selector : Selector} (empty : selector.isEmpty = true) :
    evaluator.Holds doc selector.toJson := by
  rw [toJson_of_isEmpty empty]
  trivial

theorem holds_base_iff {config : Config} {raw : Option Selector} {fragment : Selector}
    (identified : evaluator.HoldsUnder doc config.primaryKey (.object [("$gt", .null)])) :
    evaluator.Holds doc (base config raw fragment).toJson ↔
      (∀ own ∈ raw, evaluator.Holds doc own.toJson) ∧ evaluator.Holds doc fragment.toJson := by
  cases raw with
  | none =>
    simp only [base, Option.not_mem_none, false_implies, implies_true, true_and]
    split
    · next empty =>
      rw [holds_single]
      exact iff_of_true identified (holds_of_isEmpty empty)
    · rfl
  | some own =>
    simp only [base, Option.mem_some_iff, forall_eq']
    split
    · next empty => exact (and_iff_left (holds_of_isEmpty empty)).symm
    · exact holds_conjunction

theorem holds_addMissing_constraints {selector : Selector} {fields : List String} (distinct : fields.Nodup)
    (present : ∀ field ∈ fields, evaluator.HoldsUnder doc field (.object [("$gt", .null)])) :
    evaluator.Holds doc (selector.addMissing (constraints fields)).toJson ↔ evaluator.Holds doc selector.toJson := by
  rw [holds_addMissing]
  refine and_iff_left ?_
  intro key value _ added
  obtain ⟨member, rfl⟩ := (get?_constraints_eq_some_iff distinct).mp added
  exact present key member

/-- Of a document that has the primary key and every sort field, the selector of a query holds exactly if the raw
selector, where there is one, and the compiled condition do. -/
theorem holds_assembled_iff {spec : QuerySpec} {raw : Option Selector} {query : CompiledQuery}
    (structured : spec.rawSelector = raw.map fun own => .structured own.toJson)
    (assembled : spec.assembleWith accepts = .ok query)
    (identified : evaluator.HoldsUnder doc spec.config.primaryKey (.object [("$gt", .null)]))
    (sorted : ∀ sort ∈ spec.orderBy, evaluator.HoldsUnder doc sort.field (.object [("$gt", .null)])) :
    ∃ fragment selector, spec.condition.compileWith accepts = .ok fragment ∧ query.selector = .structured selector ∧
      (evaluator.Holds doc selector.toJson ↔
        (∀ own ∈ raw, evaluator.Holds doc own.toJson) ∧ evaluator.Holds doc fragment.toJson) := by
  obtain ⟨fragment, compiled, rfl⟩ := assembleWith_eq_ok_iff.mp assembled
  have selector : (spec.compiledWith fragment).selector =
      .structured ((base spec.config raw fragment).addMissing
        (constraints (unconstrained (.structured (base spec.config raw fragment)) spec.orderBy))) := by
    simp only [compiledWith, structured, composed_eq_base, withConstraints_structured]
  have present : ∀ field ∈ unconstrained (.structured (base spec.config raw fragment)) spec.orderBy,
      evaluator.HoldsUnder doc field (.object [("$gt", .null)]) := by
    intro field member
    obtain ⟨sort, inside, rfl⟩ := mem_unconstrained member
    exact sorted sort inside
  refine ⟨fragment, _, compiled, selector, ?_⟩
  rw [holds_addMissing_constraints (nodup_unconstrained _ _) present]
  exact holds_base_iff identified

def fieldEvaluator : Evaluator where
  entry key value doc := ∃ found, doc.get? key = some found ∧ (value.same (.object [("$gt", .null)]) ∨ found.same value)
  bare _ _ := False

def seenFilm : Json := .object [("_id", .string "1"), ("seen", .bool true), ("title", .string "M")]

def seenFragment : Selector := compileHash [("seen", .literal (.bool true))]

def titledSelector : Selector := .single "title" (.string "M")

def seenQuery : QuerySpec :=
  (ofDatabase "films").run
    [.rawSelector (.structured titledSelector.toJson), .filter (.hash [("seen", .literal (.bool true))]),
      .orderBy "title" .asc, .orderBy "seen" .desc]

theorem holds_assembled_iff_seen :
    ∃ fragment selector, seenQuery.condition.compile = .ok fragment ∧
      (seenQuery.compiledWith seenFragment).selector = .structured selector ∧
      (fieldEvaluator.Holds seenFilm selector.toJson ↔
        (∀ own ∈ some titledSelector, fieldEvaluator.Holds seenFilm own.toJson) ∧
          fieldEvaluator.Holds seenFilm fragment.toJson) := by
  have exists_of_key {key : String} {found : Json} (there : seenFilm.get? key = some found) :
      fieldEvaluator.HoldsUnder seenFilm key (.object [("$gt", .null)]) :=
    holdsUnder_object.mpr ⟨found, there, .inl (by decide)⟩
  have structured : seenQuery.rawSelector = (some titledSelector).map fun own => .structured own.toJson := rfl
  have assembled : seenQuery.assemble = .ok (seenQuery.compiledWith seenFragment) := assembleWith_eq_ok rfl
  refine holds_assembled_iff structured assembled (exists_of_key rfl) ?_
  intro sort member
  rcases List.mem_cons.mp member with rfl | member
  · exact exists_of_key rfl
  · rcases List.mem_singleton.mp member with rfl
    exact exists_of_key rfl

end FindQuery.QuerySpec
