import Mathlib.Data.List.Forall2
import FindQuery.Proofs.Json.RoundTrip
import FindQuery.Proofs.Selector.Additions
import FindQuery.Query.Assemble

namespace FindQuery

namespace CompiledQuery

theorem body_eq_ok {query : CompiledQuery} {selector : Json} (read : query.selector.toJson = .ok selector) :
    ∃ body, query.body = .ok body ∧ body.get? "selector" = some selector := by
  refine ⟨.object (query.members selector ++ gaps (query.members selector) query.extra), ?_, ?_⟩
  · rw [CompiledQuery.body, read]
    rfl
  · simp [Json.get?, members, Fields.get?]

theorem body_congr {query : CompiledQuery} {doc : SelectorDoc} (same : query.selector.toJson = doc.toJson) :
    ({ query with selector := doc } : CompiledQuery).body = query.body := by
  simp only [body, same]
  rfl

end CompiledQuery

namespace QuerySpec

section

variable {accepts : String → Bool}

theorem assembleWith_eq_ok_iff {spec : QuerySpec} {query : CompiledQuery} :
    spec.assembleWith accepts = .ok query ↔
      ∃ fragment, spec.condition.compileWith accepts = .ok fragment ∧ spec.compiledWith fragment = query := by
  unfold assembleWith assembleLoggedWith
  cases spec.condition.compileWith accepts <;> simp [Except.map]

theorem assembleWith_eq_ok {spec : QuerySpec} {fragment : Selector}
    (compiled : spec.condition.compileWith accepts = .ok fragment) :
    spec.assembleWith accepts = .ok (spec.compiledWith fragment) :=
  assembleWith_eq_ok_iff.mpr ⟨fragment, compiled, rfl⟩

end

theorem unconstrained_concat (doc : SelectorDoc) (sorts : List SortSpec) (sort : SortSpec) :
    unconstrained doc (sorts ++ [sort]) =
      if doc.constrains sort.field || (unconstrained doc sorts).contains sort.field then unconstrained doc sorts
      else unconstrained doc sorts ++ [sort.field] := by
  rw [unconstrained, List.foldl_append]
  rfl

theorem unconstrained_eq (doc : SelectorDoc) (orderBy : List SortSpec) :
    unconstrained doc orderBy =
      ((orderBy.map SortSpec.field).filter fun field => !doc.constrains field).eraseDups := by
  induction orderBy using List.reverseRecOn with
  | nil => simp [unconstrained]
  | append_singleton sorts sort ih =>
    rw [unconstrained_concat, ih, List.map_append, List.filter_append, List.map_singleton]
    cases constrained : doc.constrains sort.field with
    | true => simp [constrained]
    | false =>
      have singleton : [sort.field].filter (fun field => !doc.constrains field) = [sort.field] := by
        simp [constrained]
      rw [singleton, eraseDups_concat]
      simp only [Bool.false_or, List.contains_iff_mem, List.mem_eraseDups]

theorem unconstrained_eq_eraseDups {doc : SelectorDoc} (keyless : ∀ field, doc.constrains field = false)
    (orderBy : List SortSpec) : unconstrained doc orderBy = (orderBy.map SortSpec.field).eraseDups := by
  rw [unconstrained_eq, List.filter_eq_self.mpr]
  intro field _
  rw [keyless field]
  rfl

theorem nodup_unconstrained (doc : SelectorDoc) (orderBy : List SortSpec) : (unconstrained doc orderBy).Nodup := by
  rw [unconstrained_eq]
  exact nodup_eraseDups _

theorem mem_unconstrained_iff {doc : SelectorDoc} {orderBy : List SortSpec} {field : String} :
    field ∈ unconstrained doc orderBy ↔ (∃ sort ∈ orderBy, sort.field = field) ∧ doc.constrains field = false := by
  rw [unconstrained_eq, List.mem_eraseDups, List.mem_filter, List.mem_map, Bool.not_eq_true']

theorem mem_unconstrained {doc : SelectorDoc} {orderBy : List SortSpec} {field : String}
    (member : field ∈ unconstrained doc orderBy) : ∃ sort ∈ orderBy, sort.field = field :=
  (mem_unconstrained_iff.mp member).1

/-- What is asked of fields that have to be there. Null sorts before all else. -/
def aboveNull (fields : List String) : Fields := fields.map fun field => (field, .object [("$gt", .null)])

theorem keys_aboveNull (fields : List String) : Fields.keys (aboveNull fields) = fields := by
  simp [aboveNull, Fields.keys, Function.comp_def]

theorem entries_constraints {fields : List String} (distinct : fields.Nodup) :
    (constraints fields).entries = aboveNull fields := by
  have nodup : (Fields.keys (aboveNull fields)).Nodup := by rwa [keys_aboveNull]
  exact Fields.ofList_of_nodup nodup

theorem hasKey_constraints (fields : List String) (field : String) :
    (constraints fields).hasKey field = fields.contains field := by
  have keys : Fields.keys (constraints fields).entries = (Fields.keys (aboveNull fields)).eraseDups :=
    Fields.keys_ofList _
  rw [Selector.hasKey, Fields.hasKey, keys, keys_aboveNull]
  simp

theorem constraints_concat (fields : List String) (field : String) :
    constraints (fields ++ [field]) = (constraints fields).insert field existenceConstraint := by
  rw [constraints, List.map_append]
  exact Selector.ext (Fields.ofList_concat _ (field, existenceConstraint))

theorem isEmpty_constraints {fields : List String} (distinct : fields.Nodup) :
    (constraints fields).isEmpty = fields.isEmpty := by
  rw [Selector.isEmpty, entries_constraints distinct, aboveNull, List.isEmpty_map]

theorem isEmpty_constraints_eraseDups {fields : List String} :
    (constraints fields.eraseDups).isEmpty = true ↔ fields = [] := by
  rw [isEmpty_constraints (nodup_eraseDups fields), List.isEmpty_iff]
  simp only [List.eq_nil_iff_forall_not_mem, List.mem_eraseDups]

theorem get?_constraints_eq_some_iff {fields : List String} (distinct : fields.Nodup) {key : String} {value : Json} :
    (constraints fields).get? key = some value ↔ key ∈ fields ∧ value = .object [("$gt", .null)] := by
  rw [← Selector.mem_entries_iff, entries_constraints distinct, aboveNull, List.mem_map]
  constructor
  · rintro ⟨field, inside, same⟩
    cases same
    exact ⟨inside, rfl⟩
  · rintro ⟨inside, rfl⟩
    exact ⟨key, inside, rfl⟩

/-- The sort entry that the store is sent for a field and its direction. -/
inductive SortEntry : SortSpec → Json → Prop
  | ascending (field : String) : SortEntry ⟨field, .asc⟩ (.object [(field, .string "asc")])
  | descending (field : String) : SortEntry ⟨field, .desc⟩ (.object [(field, .string "desc")])
  | native (field : String) (value : Json) : SortEntry ⟨field, .native value⟩ (.object [(field, value)])

theorem exists_sortEntries (orderBy : List SortSpec) :
    ∃ entries, List.Forall₂ SortEntry orderBy entries ∧
      sortEntries orderBy = if orderBy = [] then none else some entries := by
  refine ⟨orderBy.map fun sort => .object [(sort.field, sort.direction.toJson)], ?_, ?_⟩
  · rw [List.forall₂_map_right_iff, List.forall₂_same]
    rintro ⟨field, direction⟩ _
    cases direction with
    | asc => exact .ascending field
    | desc => exact .descending field
    | native value => exact .native field value
  · simp only [sortEntries, List.isEmpty_iff]

end QuerySpec

end FindQuery
