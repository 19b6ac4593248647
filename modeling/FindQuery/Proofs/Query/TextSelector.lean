import Mathlib
import FindQuery.Proofs.Condition.WellFormed
import FindQuery.Proofs.Query.Constraints
import FindQuery.Proofs.Selector.Pasted

namespace FindQuery

open Json SelectorDoc

namespace QuerySpec

def sortConstraints (orderBy : List SortSpec) : Selector where
  entries := aboveNull (orderBy.map SortSpec.field).eraseDups
  nodup_keys := by simpa [keys_aboveNull] using nodup_eraseDups (orderBy.map SortSpec.field)

theorem constraints_text (source : String) (orderBy : List SortSpec) :
    constraints (unconstrained (.text source) orderBy) = sortConstraints orderBy := by
  rw [unconstrained_eq_eraseDups fun _ => rfl]
  exact Selector.ext (entries_constraints (nodup_eraseDups _))

theorem selector_compiledWith_text {spec : QuerySpec} {source : String}
    (raw : spec.rawSelector = some (.text source)) (fragment : Selector) :
    (spec.compiledWith fragment).selector =
      .text (conjoinText (conjoinText source fragment) (sortConstraints spec.orderBy)) := by
  have doc : composed spec.config spec.rawSelector fragment = .text (conjoinText source fragment) := by
    simp only [composed, raw, conjoinText]
    split <;> rfl
  simp only [compiledWith, doc, constraints_text, withConstraints]
  unfold conjoinText
  split <;> rfl

theorem printable_aboveNull (fields : List String) :
    EachNumberFields Number.ReadsBack (aboveNull fields) ∧ WellFormedFields (aboveNull fields) ∧
      depthFields (aboveNull fields) ≤ 1 := by
  induction fields with
  | nil => exact ⟨trivial, trivial, Nat.zero_le 1⟩
  | cons field rest ih =>
    obtain ⟨numbers, formed, shallow⟩ := ih
    exact ⟨⟨⟨trivial, trivial⟩, numbers⟩, ⟨⟨by simp [Fields.keys], trivial, trivial⟩, formed⟩,
      Nat.max_le.mpr ⟨Nat.le_refl 1, shallow⟩⟩

theorem readsBack_sortConstraints (orderBy : List SortSpec) {levels : Nat} (enough : 2 ≤ levels) :
    (sortConstraints orderBy).toJson.tree.json? levels = some (sortConstraints orderBy).toJson := by
  obtain ⟨numbers, formed, shallow⟩ := printable_aboveNull (orderBy.map SortSpec.field).eraseDups
  exact json?_tree numbers ⟨(sortConstraints orderBy).nodup_keys, formed⟩
    (Nat.le_trans (Nat.succ_le_succ shallow) enough)

theorem exists_of_parse?_conjoined {source : String} {fragment : Selector} {orderBy : List SortSpec} {whole : Json}
    (contained : SelfContained source)
    (read : parse? (conjoinText (conjoinText source fragment) (sortConstraints orderBy)) = some whole) :
    ∃ value, parse? source = some value ∧
      (whole = (value.conjoin fragment.entries).conjoin (aboveNull (orderBy.map SortSpec.field).eraseDups) ↔
        fragment.ReadsBack) := by
  obtain ⟨outer, beside, outerLe, readOuter, outerIff⟩ :=
    exists_of_readWithin?_conjoinText (selfContained_conjoinText contained fragment) (Nat.le_refl depthLimit) read
  have constraintsRead : (sortConstraints orderBy).ReadsBack := by
    refine .inr ?_
    rw [parse?, Selector.render, ofText?_render, Option.bind_some]
    exact readsBack_sortConstraints orderBy (by decide)
  obtain ⟨inner, value, innerLe, readInner, innerIff⟩ :=
    exists_of_readWithin?_conjoinText contained outerLe readOuter
  refine ⟨value, readWithin?_of_le readInner (Nat.le_trans innerLe outerLe), ?_⟩
  rw [outerIff.mpr constraintsRead, ← innerIff]
  exact ⟨conjoin_injective, fun same => by rw [same, sortConstraints]⟩

theorem toJson_selector_text {spec : QuerySpec} {source : String} {fragment : Selector} {whole : Json}
    (raw : spec.rawSelector = some (.text source))
    (read : parse? (conjoinText (conjoinText source fragment) (sortConstraints spec.orderBy)) = some whole) :
    (spec.compiledWith fragment).selector.toJson = .ok whole := by
  rw [selector_compiledWith_text raw, SelectorDoc.toJson, read]

/-- Whatever the raw text is, a body is refused or made. If one is made, the text is JSON by itself exactly if it
keeps to its own containers, and the selector is the conjunction that was asked for exactly if, beyond that, the
compiled selector reads back. -/
theorem text_selector_conjunct_iff {accepts : String → Bool} {spec : QuerySpec} {source : String}
    {fragment : Selector} (raw : spec.rawSelector = some (.text source))
    (compiled : spec.condition.compileWith accepts = .ok fragment) :
    ∃ query, spec.assembleWith accepts = .ok query ∧
      ((∃ whole, query.selector = .text whole ∧ query.body = .error (.serialization (.notJson whole))) ∨
        ∃ body, query.body = .ok body ∧
          ((∃ value, parse? source = some value) ↔ SelfContained source) ∧
          ((∃ value, parse? source = some value ∧
              body.get? "selector" =
                some ((value.conjoin fragment.entries).conjoin
                  (aboveNull (spec.orderBy.map SortSpec.field).eraseDups))) ↔
            SelfContained source ∧ fragment.ReadsBack)) := by
  refine ⟨_, assembleWith_eq_ok compiled, ?_⟩
  cases read : parse? (conjoinText (conjoinText source fragment) (sortConstraints spec.orderBy)) with
  | none =>
    refine .inl ⟨_, selector_compiledWith_text raw fragment, ?_⟩
    simp [CompiledQuery.body, selector_compiledWith_text raw, SelectorDoc.toJson, read, Except.map]
  | some whole =>
    obtain ⟨body, made, selector⟩ := CompiledQuery.body_eq_ok (toJson_selector_text raw read)
    refine .inr ⟨body, made, ⟨?_, ?_⟩, ⟨?_, ?_⟩⟩
    · rintro ⟨value, readSource⟩
      exact selfContained_of_readWithin? readSource
    · intro contained
      obtain ⟨value, readSource, _⟩ := exists_of_parse?_conjoined contained read
      exact ⟨value, readSource⟩
    · rintro ⟨value, readSource, asked⟩
      have contained := selfContained_of_readWithin? readSource
      obtain ⟨same, readSame, conjunctIff⟩ := exists_of_parse?_conjoined contained read
      rw [readSource, Option.some.injEq] at readSame
      subst readSame
      rw [selector, Option.some.injEq] at asked
      exact ⟨contained, conjunctIff.mp asked⟩
    · rintro ⟨contained, readsBack⟩
      obtain ⟨value, readSource, conjunctIff⟩ := exists_of_parse?_conjoined contained read
      exact ⟨value, readSource, by rw [selector, conjunctIff.mpr readsBack]⟩

def escapingText : String := "\x7b\x7d],\"$or\":[\x7b\x7d"

def keptFragment : Selector := compileHash [("kept", .literal (.bool true))]

def escapingQuery : QuerySpec :=
  (ofDatabase "films").run [.rawSelector (.text escapingText), .filter (.hash [("kept", .literal (.bool true))])]

theorem text_selector_conjunct_iff_escaping :
    ∃ query, escapingQuery.assemble = .ok query ∧
      ((∃ whole, query.selector = .text whole ∧ query.body = .error (.serialization (.notJson whole))) ∨
        ∃ body, query.body = .ok body ∧
          ((∃ value, parse? escapingText = some value) ↔ SelfContained escapingText) ∧
          ((∃ value, parse? escapingText = some value ∧
              body.get? "selector" = some ((value.conjoin keptFragment.entries).conjoin [])) ↔
            SelfContained escapingText ∧ keptFragment.ReadsBack)) := by
  have raw : escapingQuery.rawSelector = some (.text escapingText) := rfl
  have compiled : escapingQuery.condition.compile = .ok keptFragment := rfl
  exact text_selector_conjunct_iff raw compiled

/-- What is compiled becomes one side of a disjunction. -/
theorem escapingText_not_conjunct :
    parse? escapingText = none ∧
      ∃ query body, escapingQuery.assemble = .ok query ∧ query.body = .ok body ∧
        body.get? "selector" =
          some (.object
            [("$and", .array [.object []]), ("$or", .array [.object [], keptFragment.toJson])]) := by
  have taken : parse? (conjoinText (conjoinText escapingText keptFragment) (sortConstraints [])) =
      some (.object [("$and", .array [.object []]), ("$or", .array [.object [], keptFragment.toJson])]) := by
    cbv
  have raw : escapingQuery.rawSelector = some (.text escapingText) := rfl
  obtain ⟨body, made, found⟩ := CompiledQuery.body_eq_ok (toJson_selector_text raw taken)
  exact ⟨by cbv, _, body, assembleWith_eq_ok rfl, made, found⟩

theorem toJson_ofRaw_structured {value : Json} (formed : value.WellFormed) :
    (ofRaw (.structured value)).toJson = .ok value := by
  cases value with
  | object fields => exact congrArg (fun fields => Except.ok (Json.object fields)) (Fields.ofList_of_nodup formed.1)
  | _ => rfl

theorem toJson_selector_structured {spec : QuerySpec} {value : Json} (unsorted : spec.orderBy = [])
    (formed : value.WellFormed) (fragment : Selector) :
    (({ spec with rawSelector := some (.structured value) } : QuerySpec).compiledWith fragment).selector.toJson =
      .ok (value.conjoin fragment.entries) := by
  have doc : (({ spec with rawSelector := some (.structured value) } : QuerySpec).compiledWith fragment).selector =
      composed spec.config (some (.structured value)) fragment := by
    simp only [compiledWith, unsorted]
    rfl
  have own : fragment.entries.isEmpty = fragment.isEmpty := rfl
  simp only [doc, composed, Json.conjoin, own]
  split
  · exact toJson_ofRaw_structured formed
  · rfl

theorem conjoin_aboveNull_nil {orderBy : List SortSpec} (unsorted : orderBy = []) (value : Json) :
    value.conjoin (aboveNull (orderBy.map SortSpec.field).eraseDups) = value := by
  subst unsorted
  rfl

/-- A raw text that is JSON with at most `123` containers inside one another leaves room for the two conjunctions
that it may be put in. Reading need not give back a binary64 number that the compiled selector prints; integers it
does. -/
theorem text_selector_conjunct {accepts : String → Bool} {spec : QuerySpec} {source : String} {written : Tree}
    {value : Json} {fragment : Selector} (raw : spec.rawSelector = some (.text source))
    (structured : Tree.ofText? source.toList = some written) (shallow : written.depth ≤ 123)
    (read : parse? source = some value) (formed : spec.condition.WellFormed)
    (compiled : spec.condition.compileWith accepts = .ok fragment) (fragmentShallow : fragment.toJson.depth ≤ 123)
    (integers : fragment.toJson.EachNumber Number.IsInteger) :
    ∃ query body, spec.assembleWith accepts = .ok query ∧ query.body = .ok body ∧
      body.get? "selector" =
        some ((value.conjoin fragment.entries).conjoin (aboveNull (spec.orderBy.map SortSpec.field).eraseDups)) ∧
      (spec.orderBy = [] →
        ∃ other, { spec with rawSelector := some (.structured value) }.assembleWith accepts = .ok other ∧
          other.body = .ok body) := by
  have fragmentFormed : fragment.toJson.WellFormed := Condition.wellFormed_of_compileWith formed compiled
  have numbers : fragment.toJson.EachNumber Number.ReadsBack :=
    integers.imp fun _ integer => Number.readsBack_of_isInteger integer
  have own : readWithin? 123 source = some value := by
    rw [parse?, structured, Option.bind_some] at read
    rw [readWithin?, structured, Option.bind_some, Tree.json?_of_depth_le read shallow]
  have beside : readWithin? 125 (conjoinText source fragment) = some (value.conjoin fragment.entries) :=
    readWithin?_conjoinText own fun _ => json?_tree numbers fragmentFormed fragmentShallow
  have whole : parse? (conjoinText (conjoinText source fragment) (sortConstraints spec.orderBy)) =
      some ((value.conjoin fragment.entries).conjoin (aboveNull (spec.orderBy.map SortSpec.field).eraseDups)) :=
    readWithin?_conjoinText beside fun _ => readsBack_sortConstraints spec.orderBy (by decide)
  have selector := toJson_selector_text raw whole
  obtain ⟨body, made, found⟩ := CompiledQuery.body_eq_ok selector
  refine ⟨_, body, assembleWith_eq_ok compiled, made, found, fun unsorted => ?_⟩
  have same : (spec.compiledWith fragment).selector.toJson =
      (({ spec with rawSelector := some (.structured value) } : QuerySpec).compiledWith fragment).selector.toJson := by
    rw [selector, conjoin_aboveNull_nil unsorted,
      toJson_selector_structured unsorted (wellFormed_of_parse? read)]
  refine ⟨_, assembleWith_eq_ok compiled, ?_⟩
  rw [← made]
  exact @CompiledQuery.body_congr (spec.compiledWith fragment) _ same

def spacedText : String := "\x7b \"title\" : [ ], \"title\" : \"\\u0041\\n\" \x7d"

def spacedTree : Tree :=
  .object [(printedText "title", .array []), (printedText "title", .text [.unit 0x41, .char '\n'])]

def spacedQuery : QuerySpec :=
  (ofDatabase "films").run
    [.rawSelector (.text spacedText), .filter (.between "name" (.string "m") (.string "n")),
      .orderBy "a \"name\"" .asc, .orderBy "b" .desc, .orderBy "a \"name\"" .desc]

def spacedFragment : Selector := .single "name" (.object [("$gte", .string "m"), ("$lte", .string "n")])

theorem text_selector_conjunct_spaced :
    ∃ query body, spacedQuery.assemble = .ok query ∧ query.body = .ok body ∧
      body.get? "selector" =
        some (.object [("$and", .array
          [.object [("$and", .array
              [.object [("title", .string "A\n")],
                .object [("name", .object [("$gte", .string "m"), ("$lte", .string "n")])]])],
            .object [("a \"name\"", .object [("$gt", .null)]), ("b", .object [("$gt", .null)])]])]) ∧
      (spacedQuery.orderBy = [] →
        ∃ other, { spacedQuery with
            rawSelector := some (.structured (.object [("title", .string "A\n")])) }.assemble = .ok other ∧
          other.body = .ok body) := by
  have structured : Tree.ofText? spacedText.toList = some spacedTree := by cbv
  have read : parse? spacedText = some (.object [("title", .string "A\n")]) := by cbv
  have raw : spacedQuery.rawSelector = some (.text spacedText) := rfl
  have compiled : spacedQuery.condition.compile = .ok spacedFragment := rfl
  have formed : spacedQuery.condition.WellFormed := ⟨trivial, trivial, trivial, trivial⟩
  have fragmentShallow : spacedFragment.toJson.depth ≤ 123 := by decide
  have integers : spacedFragment.toJson.EachNumber Number.IsInteger := ⟨⟨trivial, trivial, trivial⟩, trivial⟩
  have shallow : spacedTree.depth ≤ 123 := by decide
  exact text_selector_conjunct raw structured shallow read formed compiled fragmentShallow integers

end QuerySpec

end FindQuery
