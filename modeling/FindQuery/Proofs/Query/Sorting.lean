import FindQuery.Proofs.Query.Constraints

namespace FindQuery

namespace QuerySpec

open SelectorDoc (constrains_other withConstraints_other withConstraints_structured withConstraints_text)

theorem composed_ne_other_object {config : Config} {raw : Option RawSelector} {fragment : Selector} {value : Json}
    (other : composed config raw fragment = .other value) (fields : Fields) : value ≠ .object fields := by
  rintro rfl
  unfold composed at other
  split at other
  · next own =>
    split at other
    · cases own with
      | text source => cases other
      | structured value => cases value <;> cases other
    · cases own <;> cases other
  · cases other

/-- What sort fields make of a selector, and for which of them a constraint is added: each once, in the order of their
first mention. -/
inductive Injection (sorted : List String) : SelectorDoc → List String → SelectorDoc → Prop
  | object {own final : Selector} {added : List String}
    (missing : added = (sorted.filter fun field => !own.hasKey field).eraseDups)
    (entries : final.entries = own.entries ++ aboveNull added) :
    Injection sorted (.structured own) added (.structured final)
  | unsorted {doc : SelectorDoc} (none : sorted = []) : Injection sorted doc [] doc
  | text {source : String} {added : List String} (some : sorted ≠ []) (each : added = sorted.eraseDups) :
    Injection sorted (.text source) added
      (.text ("\x7b\"$and\":[" ++ source ++ "," ++ (Json.object (aboveNull added)).render ++ "]\x7d"))
  | other {value : Json} {added : List String} {final : Selector} (some : sorted ≠ []) (each : added = sorted.eraseDups)
    (bare : ∀ fields, value ≠ .object fields)
    (entries : final.entries = [("$and", .array [value, .object (aboveNull added)])]) :
    Injection sorted (.other value) added (.structured final)

theorem Injection.hasKey {sorted added : List String} {own final : Selector}
    (injection : Injection sorted (.structured own) added (.structured final)) {field : String}
    (member : field ∈ sorted) : final.hasKey field = true := by
  cases injection with
  | object missing entries =>
    have keys : Fields.keys final.entries = own.keys ++ added := by
      rw [entries, Fields.keys, List.map_append]
      exact congrArg (own.keys ++ ·) (keys_aboveNull added)
    simp only [Selector.hasKey, Fields.hasKey, keys, List.contains_iff_mem, List.mem_append]
    by_cases there : own.hasKey field = true
    · exact .inl (List.contains_iff_mem.mp there)
    · refine .inr ?_
      rw [missing, List.mem_eraseDups, List.mem_filter]
      exact ⟨member, by simpa using there⟩
  | unsorted none =>
    rw [none] at member
    cases member

theorem injection_structured (own : Selector) (orderBy : List SortSpec) :
    Injection (orderBy.map SortSpec.field) (.structured own) (unconstrained (.structured own) orderBy)
      ((SelectorDoc.structured own).withConstraints (constraints (unconstrained (.structured own) orderBy))) := by
  have distinct := nodup_unconstrained (.structured own) orderBy
  have fresh : ∀ entry ∈ aboveNull (unconstrained (.structured own) orderBy), (!own.hasKey entry.1) = true := by
    intro entry member
    obtain ⟨field, missing, rfl⟩ := List.mem_map.mp member
    rw [unconstrained_eq, List.mem_eraseDups, List.mem_filter] at missing
    exact missing.2
  rw [withConstraints_structured]
  refine .object (unconstrained_eq _ _) ?_
  rw [Selector.entries_addMissing, entries_constraints distinct, List.filter_eq_self.mpr fresh]

theorem injection_text (source : String) (orderBy : List SortSpec) :
    Injection (orderBy.map SortSpec.field) (.text source) (unconstrained (.text source) orderBy)
      ((SelectorDoc.text source).withConstraints (constraints (unconstrained (.text source) orderBy))) := by
  rw [unconstrained_eq_eraseDups fun _ => rfl]
  by_cases unsorted : orderBy.map SortSpec.field = []
  · rw [unsorted]
    exact .unsorted rfl
  · have entries := entries_constraints (nodup_eraseDups (orderBy.map SortSpec.field))
    rw [withConstraints_text source (mt isEmpty_constraints_eraseDups.mp unsorted)]
    simp only [SelectorDoc.conjunctionText, Selector.render, Selector.toJson, entries]
    exact .text unsorted rfl

theorem injection_other {value : Json} (bare : ∀ fields, value ≠ .object fields) (orderBy : List SortSpec) :
    Injection (orderBy.map SortSpec.field) (.other value) (unconstrained (.other value) orderBy)
      ((SelectorDoc.other value).withConstraints (constraints (unconstrained (.other value) orderBy))) := by
  rw [unconstrained_eq_eraseDups (constrains_other bare)]
  by_cases unsorted : orderBy.map SortSpec.field = []
  · rw [unsorted]
    exact .unsorted rfl
  · have entries := entries_constraints (nodup_eraseDups (orderBy.map SortSpec.field))
    rw [withConstraints_other bare (mt isEmpty_constraints_eraseDups.mp unsorted), Selector.toJson, entries]
    exact .other unsorted rfl bare rfl

theorem injection_composed (config : Config) (raw : Option RawSelector) (fragment : Selector)
    (orderBy : List SortSpec) :
    Injection (orderBy.map SortSpec.field) (composed config raw fragment)
      (unconstrained (composed config raw fragment) orderBy)
      ((composed config raw fragment).withConstraints
        (constraints (unconstrained (composed config raw fragment) orderBy))) := by
  cases doc : composed config raw fragment with
  | structured own => exact injection_structured own orderBy
  | text source => exact injection_text source orderBy
  | other value => exact injection_other (composed_ne_other_object doc) orderBy

theorem map_text_trace_events (spec : QuerySpec) (fragment : Selector) :
    ((spec.events fragment).filter fun event => event.level = .trace).map LogEvent.text =
      (unconstrained (composed spec.config spec.rawSelector fragment) spec.orderBy).map
        ("injecting existence constraint for sort field " ++ ·) := by
  simp only [events, List.filter_append, List.map_append]
  have traced (fields : List String) :
      (fields.map LogEvent.injecting).filter (fun event => event.level = .trace) = fields.map LogEvent.injecting := by
    rw [List.filter_eq_self]
    intro event member
    obtain ⟨field, _, rfl⟩ := List.mem_map.mp member
    rfl
  rw [traced, List.map_map]
  exact List.append_nil _

/-- Whatever the selector is before, the sort fields add constraints to it as they should, and the trace lines name just
these. The sort entries are those that were asked for, repeated or not. -/
theorem sort_injected {accepts : String → Bool} {spec : QuerySpec} {query : CompiledQuery}
    (assembled : spec.assembleWith accepts = .ok query) :
    ∃ fragment logged added entries, spec.condition.compileWith accepts = .ok fragment ∧
      spec.assembleLoggedWith accepts = .ok (query, logged) ∧
      Injection (spec.orderBy.map SortSpec.field) (composed spec.config spec.rawSelector fragment) added
        query.selector ∧
      (∀ own, composed spec.config spec.rawSelector fragment = .structured own →
        ∃ final, query.selector = .structured final ∧ ∀ sort ∈ spec.orderBy, final.hasKey sort.field = true) ∧
      List.Forall₂ SortEntry spec.orderBy entries ∧
      query.sort = (if spec.orderBy = [] then none else some entries) ∧
      (logged.filter fun event => event.level = .trace).map LogEvent.text =
        added.map ("injecting existence constraint for sort field " ++ ·) := by
  obtain ⟨fragment, compiled, rfl⟩ := assembleWith_eq_ok_iff.mp assembled
  have injection := injection_composed spec.config spec.rawSelector fragment spec.orderBy
  have logged : spec.assembleLoggedWith accepts = .ok (spec.compiledWith fragment, spec.events fragment) := by
    rw [assembleLoggedWith, compiled]
    rfl
  obtain ⟨entries, each, sort⟩ := exists_sortEntries spec.orderBy
  refine ⟨fragment, _, _, entries, compiled, logged, injection, ?_, each, sort, map_text_trace_events spec fragment⟩
  intro own object
  rw [object, withConstraints_structured] at injection
  have selector : (spec.compiledWith fragment).selector =
      .structured (own.addMissing (constraints (unconstrained (.structured own) spec.orderBy))) := by
    simp only [compiledWith, object, withConstraints_structured]
  exact ⟨_, selector, fun sort member => injection.hasKey (List.mem_map_of_mem member)⟩

def recentQuery : QuerySpec :=
  (ofDatabase "films").run
    [.filter (.hash [("title", .literal (.string "M"))]), .orderBy "year" .desc, .orderBy "title" .asc,
      .orderBy "year" (.native (.object []))]

def recentFragment : Selector := compileHash [("title", .literal (.string "M"))]

theorem sort_injected_recent :
    ∃ logged, recentQuery.assembleLogged = .ok (recentQuery.compiledWith recentFragment, logged) ∧
      Injection ["year", "title", "year"] (.structured recentFragment) ["year"]
        (recentQuery.compiledWith recentFragment).selector ∧
      (recentQuery.compiledWith recentFragment).sort =
        some [.object [("year", .string "desc")], .object [("title", .string "asc")], .object [("year", .object [])]] ∧
      (logged.filter fun event => event.level = .trace).map LogEvent.text =
        ["injecting existence constraint for sort field year"] := by
  have assembled : recentQuery.assembleWith Pattern.accepts = .ok (recentQuery.compiledWith recentFragment) :=
    assembleWith_eq_ok rfl
  obtain ⟨fragment, logged, added, entries, compiled, log, injection, -, each, sort, traced⟩ := sort_injected assembled
  cases compiled
  obtain rfl : added = ["year"] := by
    cases injection with
    | object missing _ => exact missing
  obtain rfl : entries =
      [.object [("year", .string "desc")], .object [("title", .string "asc")], .object [("year", .object [])]] := by
    obtain - | ⟨one, - | ⟨two, - | ⟨three, - | _⟩⟩⟩ := each
    cases one
    cases two
    cases three
    rfl
  exact ⟨logged, log, injection, sort, traced⟩

end QuerySpec

end FindQuery
