import FindQuery.Proofs.Query.Constraints
import FindQuery.Response.Record

namespace FindQuery

/-- What is left of a document if some fields are asked for. A document without fields stays as it is. -/
def Json.project (names : Option (List String)) : Json → Json
  | .object fields =>
    match names with
    | some names => .object (fields.filter fun field => names.contains field.1)
    | none => .object fields
  | doc => doc

theorem Json.get?_project {names : Option (List String)} {key : String}
    (asked : ∀ requested, names = some requested → key ∈ requested) (doc : Json) :
    (doc.project names).get? key = doc.get? key := by
  cases doc with
  | object fields =>
    cases names with
    | none => rfl
    | some requested =>
      have kept : requested.contains key = true := List.contains_iff_mem.mpr (asked requested rfl)
      exact Fields.get?_filter kept fields
  | _ => rfl

theorem RecordIdentity.ofDoc_project {config : Config} {names : Option (List String)}
    (asked : ∀ requested, names = some requested →
      config.primaryKey ∈ requested ∧ config.revisionField ∈ requested) (doc : Json) :
    RecordIdentity.ofDoc config (doc.project names) = RecordIdentity.ofDoc config doc := by
  have id : (doc.project names).get? config.primaryKey = doc.get? config.primaryKey :=
    Json.get?_project (fun requested same => (asked requested same).1) doc
  have rev : (doc.project names).get? config.revisionField = doc.get? config.revisionField :=
    Json.get?_project (fun requested same => (asked requested same).2) doc
  rw [ofDoc, id, rev, ofDoc]

def FindResponse.project (names : Option (List String)) (response : FindResponse) : FindResponse :=
  { response with docs := response.docs.map (Json.project names) }

namespace QuerySpec

def unlisted (config : Config) (sources : List String) : List String :=
  [config.primaryKey, config.revisionField].filter fun name => !sources.contains name

theorem requestedFields_named (config : Config) {pairs : List (String × String)} (given : pairs ≠ []) :
    requestedFields config (.named pairs) =
      some (unlisted config (pairs.map Prod.snd) ++ pairs.map Prod.snd) := by
  cases pairs with
  | nil => exact absurd rfl given
  | cons pair rest => rfl

theorem mem_unlisted_iff {config : Config} {sources : List String} {name : String} :
    name ∈ unlisted config sources ↔
      (name = config.primaryKey ∨ name = config.revisionField) ∧ name ∉ sources := by
  simp [unlisted]

theorem mem_unlisted_append {config : Config} (sources : List String) {name : String}
    (identifying : name = config.primaryKey ∨ name = config.revisionField) :
    name ∈ unlisted config sources ++ sources := by
  rw [List.mem_append, mem_unlisted_iff]
  by_cases listed : name ∈ sources
  · exact .inr listed
  · exact .inl ⟨identifying, listed⟩

theorem mem_requestedFields {config : Config} {projection : Projection} {requested : List String}
    (something : projection ≠ .nothing) (listed : projection ≠ .named [])
    (fields : requestedFields config projection = some requested) :
    config.primaryKey ∈ requested ∧ config.revisionField ∈ requested := by
  cases projection with
  | whole => cases fields
  | nothing => exact absurd rfl something
  | named pairs =>
    rw [requestedFields_named config (mt (congrArg Projection.named) listed)] at fields
    cases fields
    exact ⟨mem_unlisted_append _ (.inl rfl), mem_unlisted_append _ (.inr rfl)⟩

theorem nodup_unlisted_iff {config : Config} {sources : List String} :
    (unlisted config sources).Nodup ↔
      (config.primaryKey = config.revisionField → config.primaryKey ∈ sources) := by
  by_cases same : config.primaryKey = config.revisionField
  · by_cases listed : config.revisionField ∈ sources
    · simp [unlisted, same, listed]
    · simp [unlisted, same, listed]
  · have distinct : [config.primaryKey, config.revisionField].Nodup := by simpa using same
    exact iff_of_true (distinct.filter _) fun equal => absurd equal same

theorem nodup_unlisted_append_iff {config : Config} {sources : List String} (distinct : sources.Nodup) :
    (unlisted config sources ++ sources).Nodup ↔ (unlisted config sources).Nodup := by
  rw [List.nodup_append]
  refine ⟨And.left, fun added => ⟨added, distinct, ?_⟩⟩
  rintro name missing _ listed rfl
  exact (mem_unlisted_iff.mp missing).2 listed

/-- Documents that are left with the fields that a caller asks for, by whatever names, have the identities of the
whole documents, or are refused with the same error. -/
theorem identities_project {accepts : String → Bool} {spec : QuerySpec} {query : CompiledQuery}
    (assembled : spec.assembleWith accepts = .ok query) (something : spec.projection ≠ .nothing)
    (listed : spec.projection ≠ .named []) (response : FindResponse) :
    (response.project query.fields).identities spec.config = response.identities spec.config := by
  obtain ⟨fragment, _, rfl⟩ := assembleWith_eq_ok_iff.mp assembled
  have asked (requested : List String) (fields : (spec.compiledWith fragment).fields = some requested) :
      spec.config.primaryKey ∈ requested ∧ spec.config.revisionField ∈ requested :=
    mem_requestedFields something listed fields
  have each : RecordIdentity.ofDoc spec.config ∘ Json.project (spec.compiledWith fragment).fields =
      RecordIdentity.ofDoc spec.config := funext (RecordIdentity.ofDoc_project asked)
  rw [FindResponse.identities, FindResponse.project, List.mapM_map, each, FindResponse.identities]

def titledQuery : QuerySpec :=
  (ofDatabase "films").run
    [.config ⟨"number", "version"⟩, .fieldsAs [("name", "title"), ("title", "version"), ("again", "title")]]

def titledFilms : FindResponse :=
  .ofDocs
    [.object [("title", .string "M"), ("year", .null), ("version", .string "2"), ("number", .bool true)],
      .object [("number", .string "7"), ("version", .null)]]

theorem identities_project_titled :
    titledQuery.projection ≠ .nothing ∧ titledQuery.projection ≠ .named [] ∧
      (titledFilms.project (titledQuery.compiledWith .empty).fields).identities titledQuery.config =
        titledFilms.identities titledQuery.config ∧
      titledFilms.identities titledQuery.config = .ok [⟨"true", some "2"⟩, ⟨"7", none⟩] := by
  have assembled : titledQuery.assemble = .ok (titledQuery.compiledWith .empty) := assembleWith_eq_ok rfl
  have something : titledQuery.projection ≠ .nothing := by decide
  have listed : titledQuery.projection ≠ .named [] := by decide
  exact ⟨something, listed, identities_project assembled something listed titledFilms, by cbv⟩

/-- The fields that identify a document and are not listed come before the listed ones, whose order and repetitions
are kept. None of them comes twice, unless both are one field that is not listed. -/
theorem identity_requested {accepts : String → Bool} {spec : QuerySpec} {pairs : List (String × String)}
    {query : CompiledQuery}
    (listed : spec.projection = .named pairs) (given : pairs ≠ []) (assembled : spec.assembleWith accepts = .ok query) :
    ∃ added, query.fields = some (added ++ pairs.map Prod.snd) ∧
      added.Sublist [spec.config.primaryKey, spec.config.revisionField] ∧
      (∀ name, name ∈ added ↔
        (name = spec.config.primaryKey ∨ name = spec.config.revisionField) ∧ name ∉ pairs.map Prod.snd) ∧
      (spec.config.primaryKey ∈ added ++ pairs.map Prod.snd ∧
        spec.config.revisionField ∈ added ++ pairs.map Prod.snd) ∧
      (added.Nodup ↔
        (spec.config.primaryKey = spec.config.revisionField → spec.config.primaryKey ∈ pairs.map Prod.snd)) ∧
      ((pairs.map Prod.snd).Nodup → ((added ++ pairs.map Prod.snd).Nodup ↔ added.Nodup)) := by
  obtain ⟨fragment, _, rfl⟩ := assembleWith_eq_ok_iff.mp assembled
  refine ⟨unlisted spec.config (pairs.map Prod.snd), ?_, List.filter_sublist, fun _ => mem_unlisted_iff,
    ⟨mem_unlisted_append _ (.inl rfl), mem_unlisted_append _ (.inr rfl)⟩, nodup_unlisted_iff,
    nodup_unlisted_append_iff⟩
  rw [compiledWith, listed, requestedFields_named spec.config given]

theorem identity_requested_titled :
    titledQuery.projection = .named [("name", "title"), ("title", "version"), ("again", "title")] ∧
      ∃ added, (titledQuery.compiledWith .empty).fields = some (added ++ ["title", "version", "title"]) ∧
        added.Sublist ["number", "version"] ∧
        (∀ name, name ∈ added ↔ (name = "number" ∨ name = "version") ∧ name ∉ ["title", "version", "title"]) ∧
        ("number" ∈ added ++ ["title", "version", "title"] ∧ "version" ∈ added ++ ["title", "version", "title"]) ∧
        (added.Nodup ↔ ("number" = "version" → "number" ∈ ["title", "version", "title"])) ∧
        (["title", "version", "title"].Nodup → ((added ++ ["title", "version", "title"]).Nodup ↔ added.Nodup)) := by
  have assembled : titledQuery.assemble = .ok (titledQuery.compiledWith .empty) := assembleWith_eq_ok rfl
  have listed : titledQuery.projection = .named [("name", "title"), ("title", "version"), ("again", "title")] := rfl
  exact ⟨listed, identity_requested listed (List.cons_ne_nil _ _) assembled⟩

def sharedNameQuery : QuerySpec := (ofDatabase "films").run [.config ⟨"id", "id"⟩, .fields ["title"]]

theorem sharedName_requested_twice :
    sharedNameQuery.projection = .named [("title", "title")] ∧ ["title"].Nodup ∧
      ∃ query, sharedNameQuery.assemble = .ok query ∧ query.fields = some ["id", "id", "title"] ∧
        ¬ ["id", "id", "title"].Nodup ∧ ∀ added, query.fields = some (added ++ ["title"]) → ¬ added.Nodup := by
  refine ⟨rfl, by decide, _, rfl, rfl, by decide, ?_⟩
  intro added split
  have same : ["id", "id"] ++ ["title"] = added ++ ["title"] := Option.some.inj split
  rw [← List.append_cancel_right same]
  decide

end QuerySpec

end FindQuery
