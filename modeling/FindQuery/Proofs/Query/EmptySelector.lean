import FindQuery.Proofs.Condition.Accepted
import FindQuery.Proofs.Json.Members
import FindQuery.Proofs.Query.Constraints
import FindQuery.Proofs.Selector.Pasted

namespace FindQuery

open Json

namespace Selector

theorem isEmpty_iff_eq_empty {selector : Selector} : selector.isEmpty = true ↔ selector = .empty := by
  rw [isEmpty, List.isEmpty_iff, Selector.ext_iff]
  rfl

end Selector

namespace SelectorDoc

def IsBare (doc : SelectorDoc) : Prop := doc.toJson = .ok (.object [])

theorem isBare_structured {selector : Selector} : (structured selector).IsBare ↔ selector.isEmpty = true := by
  simp [IsBare, toJson, Selector.toJson, Selector.isEmpty]

theorem isBare_other {value : Json} : (other value).IsBare ↔ value = .object [] := by simp [IsBare, toJson]

theorem isBare_text {source : String} : (text source).IsBare ↔ parse? source = some (.object []) := by
  simp only [IsBare, toJson]
  cases parse? source <;> simp

theorem isBare_ofRaw {raw : RawSelector} : (ofRaw raw).IsBare ↔ raw.value? = some (.object []) := by
  cases raw with
  | text source => exact isBare_text
  | structured value =>
    cases value with
    | object fields =>
      simp only [ofRaw, isBare_structured, Selector.isEmpty, List.isEmpty_iff, RawSelector.value?, Option.some.injEq,
        Json.object.injEq]
      constructor
      · intro none
        by_contra some
        exact Fields.ofList_ne_nil some none
      · rintro rfl
        rfl
    | _ => simp [ofRaw, isBare_other, RawSelector.value?]

theorem parse?_conjunctionText_ne_empty (source : String) (side : Selector) :
    parse? (conjunctionText source side) ≠ some (.object []) := by
  intro read
  obtain ⟨written, structured, denoted⟩ := Option.bind_eq_some_iff.mp read
  obtain ⟨tokens, scanned, built⟩ := Option.bind_eq_some_iff.mp structured
  rw [toList_conjunctionText, scan?_mark Scanner.marks_openObject,
    scan?_append_mark (scan?_quoted "$and") Scanner.marks_colon] at scanned
  simp only [Option.map_map, Option.map_eq_some_iff, Function.comp_apply] at scanned
  obtain ⟨rest, _, rfl⟩ := scanned
  obtain ⟨members, some, rfl⟩ := Tree.exists_members_of_ofTokens? built
  exact Tree.json?_object_ne_empty some denoted rfl

theorem not_isBare_andRaw (raw : RawSelector) (compiled : Selector) : ¬ (andRaw raw compiled).IsBare := by
  cases raw with
  | text source => exact fun bare => parse?_conjunctionText_ne_empty source compiled (isBare_text.mp bare)
  | structured value => exact fun bare => nomatch isBare_structured.mp bare

theorem isBare_withConstraints {doc : SelectorDoc} {extra : Selector} :
    (doc.withConstraints extra).IsBare ↔ doc.IsBare ∧ extra.isEmpty = true := by
  unfold withConstraints
  split
  · next none => simp [none]
  · next some =>
    refine iff_of_false ?_ fun both => some both.2
    split
    · exact fun bare => some (Selector.isEmpty_addMissing.mp (isBare_structured.mp bare)).2
    · exact fun bare => some (Selector.isEmpty_addMissing.mp (isBare_structured.mp bare)).2
    · exact fun bare => nomatch isBare_structured.mp bare
    · exact not_isBare_andRaw _ extra

theorem IsBare.constrains {doc : SelectorDoc} (bare : doc.IsBare) (field : String) : doc.constrains field = false := by
  cases doc with
  | structured selector =>
    have none : selector.entries = [] := List.isEmpty_iff.mp (isBare_structured.mp bare)
    simp [SelectorDoc.constrains, Selector.hasKey, Fields.hasKey, Fields.keys, none]
  | other value =>
    cases isBare_other.mp bare
    rfl
  | text source => rfl

end SelectorDoc

namespace QuerySpec

open SelectorDoc

theorem isBare_composed {config : Config} {raw : Option RawSelector} {fragment : Selector} :
    (composed config raw fragment).IsBare ↔
      fragment.isEmpty = true ∧ ∃ own, raw = some own ∧ own.value? = some (.object []) := by
  cases raw with
  | none =>
    simp only [composed, isBare_structured, reduceCtorEq, false_and, exists_false, and_false, iff_false]
    split
    -- The primary key stands in for a condition that compiles to nothing.
    · exact Bool.false_ne_true
    · next some => exact some
  | some own =>
    simp only [composed, Option.some.injEq, exists_eq_left']
    split
    · next none => simp [none, isBare_ofRaw]
    · next some => exact iff_of_false (not_isBare_andRaw own fragment) fun both => some both.1

theorem isBare_selector_compiledWith {spec : QuerySpec} {fragment : Selector} :
    (spec.compiledWith fragment).selector.IsBare ↔
      (composed spec.config spec.rawSelector fragment).IsBare ∧ spec.orderBy = [] := by
  simp only [compiledWith, isBare_withConstraints]
  refine and_congr_right fun bare => ?_
  -- An empty object has no keys, so that every sort field gets a constraint.
  rw [unconstrained_eq_eraseDups bare.constrains, isEmpty_constraints_eraseDups, List.map_eq_nil_iff]

/-- Every body has a selector. It is the empty object exactly if the caller wrote that one, as a value or as a text, and
neither a condition nor sort fields add to it. -/
theorem selector_eq_empty_iff {accepts : String → Bool} {spec : QuerySpec} {query : CompiledQuery} {body : Json}
    (assembled : spec.assembleWith accepts = .ok query) (made : query.body = .ok body) :
    ∃ selector, body.get? "selector" = some selector ∧
      (selector = .object [] ↔
        spec.orderBy = [] ∧ spec.condition.compileWith accepts = .ok .empty ∧
          ∃ raw, spec.rawSelector = some raw ∧ raw.value? = some (.object [])) := by
  obtain ⟨fragment, compiled, rfl⟩ := assembleWith_eq_ok_iff.mp assembled
  cases read : (spec.compiledWith fragment).selector.toJson with
  | error error =>
    rw [CompiledQuery.body, read] at made
    cases made
  | ok selector =>
    obtain ⟨again, same, found⟩ := CompiledQuery.body_eq_ok read
    rw [made, Except.ok.injEq] at same
    subst same
    refine ⟨selector, found, ?_⟩
    have bare : selector = .object [] ↔ (spec.compiledWith fragment).selector.IsBare := by
      rw [IsBare, read, Except.ok.injEq]
    rw [bare, isBare_selector_compiledWith, isBare_composed, compiled, Except.ok.injEq, Selector.isEmpty_iff_eq_empty]
    exact and_comm

def sortedBareQuery : QuerySpec :=
  (ofDatabase "films").run
    [.rawSelector (.structured (.object [])), .filter (.raw (.structured (.object []))), .orderBy "year" .asc]

def sortedBareBody : Json :=
  .object
    [("selector", .object [("year", .object [("$gt", .null)])]), ("sort", .array [.object [("year", .string "asc")]])]

theorem selector_eq_empty_iff_sorted :
    ∃ selector, sortedBareBody.get? "selector" = some selector ∧
      (selector = .object [] ↔
        sortedBareQuery.orderBy = [] ∧ sortedBareQuery.condition.compile = .ok .empty ∧
          ∃ raw, sortedBareQuery.rawSelector = some raw ∧ raw.value? = some (.object [])) := by
  have assembled : sortedBareQuery.assemble = .ok (sortedBareQuery.compiledWith .empty) := assembleWith_eq_ok rfl
  have made : (sortedBareQuery.compiledWith .empty).body = .ok sortedBareBody := rfl
  exact selector_eq_empty_iff assembled made

def bareQuery : QuerySpec := (ofDatabase "films").run [.rawSelector (.structured (.object []))]

/-- A raw selector that is empty is sent as it is, and nothing stands in for it. -/
theorem bareQuery_selector_empty :
    ∃ query body, bareQuery.assemble = .ok query ∧ query.body = .ok body ∧
      body.get? "selector" = some (.object []) :=
  ⟨bareQuery.compiledWith .empty, .object [("selector", .object [])], rfl, rfl, rfl⟩

end QuerySpec

end FindQuery
