import FindQuery.Proofs.Query.Meaning
import FindQuery.Proofs.Query.Steps

namespace FindQuery

/-- A way to take selectors in which values have ranks, null the lowest, and fields are compared by the rank of what
a document has in them. -/
structure RankedReading extends Reading where
  value? : Json → String → Option Json
  le : Json → Json → Prop
  total : ∀ value other, le value other ∨ le other value
  trans : ∀ {low value high}, le low value → le value high → le low high
  null_le : ∀ value, le .null value
  greater : ∀ {doc found : Json} {field : String} (bound : Json), Token.isNative field = false →
    value? doc field = some found →
      (HoldsUnder doc field (.object [("$gt", bound)]) ↔ le bound found ∧ ¬ le found bound)

namespace RankedReading

variable (reading : RankedReading) {doc : Json}

def Lowest (value : Json) : Prop := ∀ other, reading.le value other

theorem lowest_iff {value : Json} : reading.Lowest value ↔ reading.le value .null := by
  constructor
  · intro lowest
    exact lowest .null
  · intro below other
    exact reading.trans below (reading.null_le other)

theorem lowest_null : reading.Lowest .null := reading.null_le

theorem holdsUnder_existence_iff {found : Json} {field : String} (plain : Token.isNative field = false)
    (there : reading.value? doc field = some found) :
    reading.HoldsUnder doc field (.object [("$gt", .null)]) ↔ ¬ reading.Lowest found := by
  rw [reading.greater .null plain there, lowest_iff]
  exact and_iff_right (reading.null_le found)

end RankedReading

namespace QuerySpec

open SelectorDoc (withConstraints_structured)

def unsorted (spec : QuerySpec) : QuerySpec := { spec with orderBy := [] }

theorem unsorted_apply (spec : QuerySpec) (step : Step) :
    (spec.apply step).unsorted = if step.part ≠ .orderBy then spec.unsorted.apply step else spec.unsorted := by
  cases step <;> rfl

theorem unsorted_run (spec : QuerySpec) (steps : List Step) :
    (spec.run steps).unsorted = spec.unsorted.run (steps.filter fun step => step.part ≠ .orderBy) :=
  run_cleared (by simpa using unsorted_apply) spec steps

theorem selector_compiledWith_structured {spec : QuerySpec} {raw : Option Selector}
    (structured : spec.rawSelector = raw.map fun own => .structured own.toJson) (fragment : Selector) :
    (spec.compiledWith fragment).selector =
      .structured ((base spec.config raw fragment).addMissing
        (constraints (unconstrained (.structured (base spec.config raw fragment)) spec.orderBy))) := by
  simp only [compiledWith, structured, composed_eq_base, withConstraints_structured]

theorem holds_addMissing_iff_not_lowest (reading : RankedReading) {doc : Json} {own : Selector}
    {orderBy : List SortSpec} (plain : ∀ sort ∈ orderBy, Token.isNative sort.field = false)
    (present : ∀ sort ∈ orderBy, ∃ value, reading.value? doc sort.field = some value) :
    reading.Holds doc (own.addMissing (constraints (unconstrained (.structured own) orderBy))).toJson ↔
      reading.Holds doc own.toJson ∧ ∀ sort ∈ orderBy, own.hasKey sort.field = false →
        ∀ value, reading.value? doc sort.field = some value → ¬ reading.Lowest value := by
  have distinct := nodup_unconstrained (.structured own) orderBy
  rw [reading.holds_addMissing]
  refine and_congr_right fun _ => ?_
  constructor
  · -- The bound that is added for the field is null, and only what has its rank does not exceed it.
    intro each sort member free value there
    have added : sort.field ∈ unconstrained (.structured own) orderBy :=
      mem_unconstrained_iff.mpr ⟨⟨sort, member, rfl⟩, free⟩
    have absent : own.get? sort.field = none := by
      rwa [Selector.hasKey, Fields.hasKey_eq_isSome, Option.isSome_eq_false_iff, Option.isNone_iff_eq_none] at free
    have constrained := each sort.field _ absent ((get?_constraints_eq_some_iff distinct).mpr ⟨added, rfl⟩)
    exact (reading.holdsUnder_existence_iff (plain sort member) there).mp constrained
  · -- Only sort fields are added, and the document has them.
    intro each key value _ found
    obtain ⟨added, rfl⟩ := (get?_constraints_eq_some_iff distinct).mp found
    obtain ⟨⟨sort, member, rfl⟩, free⟩ := mem_unconstrained_iff.mp added
    obtain ⟨value, there⟩ := present sort member
    exact (reading.holdsUnder_existence_iff (plain sort member) there).mpr (each sort member free value there)

/-- A description with sort fields finds a document that has all of them exactly if the description without them does,
and the document has no value of the lowest rank in a sort field that is no key of the selector otherwise. -/
theorem holds_sorted_iff {accepts : String → Bool} {database : String} {steps : List Step} {spec : QuerySpec}
    {raw : Option Selector} {query : CompiledQuery} {doc : Json} (reading : RankedReading)
    (built : spec = (ofDatabase database).run steps)
    (structured : spec.rawSelector = raw.map fun own => .structured own.toJson)
    (plain : ∀ sort ∈ spec.orderBy, Token.isNative sort.field = false)
    (assembled : spec.assembleWith accepts = .ok query)
    (present : ∀ sort ∈ spec.orderBy, ∃ value, reading.value? doc sort.field = some value) :
    ∃ other own final,
      ((ofDatabase database).run (steps.filter fun step => step.part ≠ .orderBy)).assembleWith accepts = .ok other ∧
      other.selector = .structured own ∧ query.selector = .structured final ∧
      (reading.Holds doc final.toJson ↔
        reading.Holds doc own.toJson ∧ ∀ sort ∈ spec.orderBy, own.hasKey sort.field = false →
          ∀ value, reading.value? doc sort.field = some value → ¬ reading.Lowest value) := by
  obtain ⟨fragment, compiled, rfl⟩ := assembleWith_eq_ok_iff.mp assembled
  have without : (ofDatabase database).run (steps.filter fun step => step.part ≠ .orderBy) = spec.unsorted := by
    rw [built, unsorted_run]
    rfl
  have compiledWithout : spec.unsorted.condition.compileWith accepts = .ok fragment := compiled
  have structuredWithout : spec.unsorted.rawSelector = raw.map fun own => .structured own.toJson := structured
  rw [without]
  refine ⟨_, base spec.config raw fragment, _, assembleWith_eq_ok compiledWithout, ?_,
    selector_compiledWith_structured structured fragment, holds_addMissing_iff_not_lowest reading plain present⟩
  rw [selector_compiledWith_structured structuredWithout]
  rfl

def kindRank : Json → Nat
  | .null => 0
  | .bool _ => 1
  | .number _ => 2
  | .string _ => 3
  | .array _ => 4
  | .object _ => 5

def kindEvaluator : Evaluator where
  entry key value doc :=
    ∃ found, doc.get? key = some found ∧
      match value with
      | .object [(operator, bound)] => operator = "$gt" ∧ kindRank bound < kindRank found
      | value => found.same value
  bare _ _ := False

def kindReading : RankedReading where
  toReading := kindEvaluator.reading
  value? doc field := doc.get? field
  le value other := kindRank value ≤ kindRank other
  total value other := Nat.le_total (kindRank value) (kindRank other)
  trans := Nat.le_trans
  null_le value := Nat.zero_le (kindRank value)
  greater := by
    intro doc found field bound _ there
    have entry : kindEvaluator.HoldsUnder doc field (.object [("$gt", bound)]) ↔
        kindRank bound < kindRank found := by
      rw [Evaluator.holdsUnder_object]
      simp [kindEvaluator, there]
    exact entry.trans Nat.lt_iff_le_and_not_ge

theorem holds_sorted_iff_seen :
    (∀ sort ∈ seenQuery.orderBy, Token.isNative sort.field = false) ∧
      (∀ sort ∈ seenQuery.orderBy, ∃ value, kindReading.value? seenFilm sort.field = some value) ∧
      ∃ other own final,
        ((ofDatabase "films").run
          [.rawSelector (.structured titledSelector.toJson),
            .filter (.hash [("seen", .literal (.bool true))])]).assemble = .ok other ∧
        other.selector = .structured own ∧ (seenQuery.compiledWith seenFragment).selector = .structured final ∧
        (kindReading.Holds seenFilm final.toJson ↔
          kindReading.Holds seenFilm own.toJson ∧ ∀ sort ∈ seenQuery.orderBy, own.hasKey sort.field = false →
            ∀ value, kindReading.value? seenFilm sort.field = some value → ¬ kindReading.Lowest value) := by
  have structured : seenQuery.rawSelector = (some titledSelector).map fun own => .structured own.toJson := rfl
  have assembled : seenQuery.assemble = .ok (seenQuery.compiledWith seenFragment) := assembleWith_eq_ok rfl
  have plain : ∀ sort ∈ seenQuery.orderBy, Token.isNative sort.field = false := by
    intro sort member
    rcases List.mem_cons.mp member with rfl | member
    · decide
    · rcases List.mem_singleton.mp member with rfl
      decide
  have present : ∀ sort ∈ seenQuery.orderBy, ∃ value, kindReading.value? seenFilm sort.field = some value := by
    intro sort member
    rcases List.mem_cons.mp member with rfl | member
    · exact ⟨.string "M", rfl⟩
    · rcases List.mem_singleton.mp member with rfl
      exact ⟨.bool true, rfl⟩
  exact ⟨plain, present, holds_sorted_iff kindReading rfl structured plain assembled present⟩

def untitledFilm : Json := .object [("_id", .string "1"), ("title", .null)]

/-- The title is there, but no value comes below it. -/
theorem nullTitle_hidden :
    Token.isNative "title" = false ∧ kindReading.value? untitledFilm "title" = some .null ∧
      ∃ other query own final, (ofDatabase "films").assemble = .ok other ∧
        ((ofDatabase "films").run [.orderBy "title" .asc]).assemble = .ok query ∧
        other.selector = .structured own ∧ query.selector = .structured final ∧
        kindReading.Holds untitledFilm own.toJson ∧ ¬ kindReading.Holds untitledFilm final.toJson := by
  refine ⟨by decide, rfl, _, _, _, _, rfl, rfl, rfl, rfl, ?_, ?_⟩
  · have identified : kindReading.value? untitledFilm "_id" = some (.string "1") := rfl
    have above : ¬ kindReading.Lowest (.string "1") := by
      rw [kindReading.lowest_iff]
      exact Nat.not_le_of_gt (by decide)
    exact kindReading.holds_single.mpr ((kindReading.holdsUnder_existence_iff (by decide) identified).mpr above)
  · intro holds
    have titled := kindReading.holds_toJson_iff.mp holds "title" (.object [("$gt", .null)]) rfl
    exact (kindReading.holdsUnder_existence_iff (by decide) rfl).mp titled kindReading.lowest_null

end QuerySpec

end FindQuery
