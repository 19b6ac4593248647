import FindQuery.Proofs.Query.Constraints
import FindQuery.Proofs.Query.Steps

namespace FindQuery

def Projection.sources : Projection → Option (List String)
  | .whole => none
  | .nothing => some []
  | .named pairs => some (pairs.map Prod.snd)

/-- Where any field is asked for, so are those that identify a document. -/
def Config.withIdentity (config : Config) (sources : List String) : List String :=
  if sources = [] then []
  else [config.primaryKey, config.revisionField].filter (fun name => name ∉ sources) ++ sources

namespace CompiledQuery

theorem keys_gaps (members writes : Fields) :
    Fields.keys (gaps members (.ofList writes)) =
      (Fields.keys writes).eraseDups.filter fun key => key ∉ Fields.keys members := by
  have kept : (fun field : String × Json => !Fields.hasKey members field.1) =
      (fun key => decide (key ∉ Fields.keys members)) ∘ Prod.fst := by
    funext field
    simp [Fields.hasKey]
  rw [gaps, kept, ← Fields.keys_ofList, Fields.keys, ← List.filter_map]
  rfl

theorem lookup_of_mem_gaps {members writes : Fields} {field : String × Json}
    (member : field ∈ gaps members (.ofList writes)) : writes.reverse.lookup field.1 = some field.2 := by
  rw [← Fields.get?_ofList]
  exact (Fields.mem_iff_get? (Fields.nodup_keys_ofList writes) field.1 field.2).mp (List.mem_filter.mp member).1

theorem body_eq_ok_iff {query : CompiledQuery} {body : Json} :
    query.body = .ok body ↔
      ∃ selector, query.selector.toJson = .ok selector ∧
        .object (query.members selector ++ gaps (query.members selector) query.extra) = body := by
  unfold CompiledQuery.body
  cases query.selector.toJson <;> simp [Except.map]

end CompiledQuery

namespace QuerySpec

def Step.extra? : Step → Option (String × Json)
  | .rawQuery key value => some (key, value)
  | _ => none

theorem rawQuery_apply (spec : QuerySpec) (step : Step) :
    (spec.apply step).rawQuery = spec.rawQuery.extend step.extra?.toList := by
  cases step <;> rfl

theorem rawQuery_run (spec : QuerySpec) (steps : List Step) :
    (spec.run steps).rawQuery = spec.rawQuery.extend (steps.filterMap Step.extra?) := by
  induction steps generalizing spec with
  | nil => rfl
  | cons step rest ih =>
    rw [run_cons, ih, rawQuery_apply]
    cases extra : step.extra? <;> simp [extra, Fields.extend]

def withoutExtra (spec : QuerySpec) : QuerySpec := { spec with rawQuery := [] }

theorem exists_rawQuery_of_withoutExtra {spec other : QuerySpec} (same : other.withoutExtra = spec.withoutExtra) :
    ∃ writes, other = { spec with rawQuery := writes } := by
  refine ⟨other.rawQuery, ?_⟩
  calc other = { other.withoutExtra with rawQuery := other.rawQuery } := rfl
    _ = { spec.withoutExtra with rawQuery := other.rawQuery } := by rw [same]
    _ = { spec with rawQuery := other.rawQuery } := rfl

theorem withoutExtra_apply (spec : QuerySpec) (step : Step) :
    (spec.apply step).withoutExtra =
      if step.extra?.isNone then spec.withoutExtra.apply step else spec.withoutExtra := by
  cases step <;> rfl

theorem withoutExtra_run (spec : QuerySpec) (steps : List Step) :
    (spec.run steps).withoutExtra = spec.withoutExtra.run (steps.filter fun step => step.extra?.isNone) :=
  run_cleared withoutExtra_apply spec steps

theorem exists_run_eq {database : String} {steps others : List Step}
    (same : (others.filter fun step => step.extra?.isNone) = (steps.filter fun step => step.extra?.isNone)) :
    ∃ writes, (ofDatabase database).run others = { (ofDatabase database).run steps with rawQuery := writes } := by
  refine exists_rawQuery_of_withoutExtra ?_
  rw [withoutExtra_run, withoutExtra_run, same]

theorem requestedFields_eq (config : Config) (projection : Projection) :
    requestedFields config projection = projection.sources.map config.withIdentity := by
  cases projection with
  | named pairs => cases pairs <;> simp [requestedFields, Projection.sources, Config.withIdentity]
  | _ => rfl

theorem inRange_toNat (count : UInt64) : leastInteger ≤ (count.toNat : Int) ∧ (count.toNat : Int) < integerLimit := by
  have below : count.toNat < integerLimit := count.toNat_lt
  have above : leastInteger ≤ 0 := by decide
  omega

/-- The members that are compiled, in their order, each with its value if it is set. -/
def settings (spec : QuerySpec) (selector : Json) (sortEntries : List Json) : List (String × Option Json) :=
  [("selector", some selector),
    ("sort", if spec.orderBy = [] then none else some (.array sortEntries)),
    ("fields", spec.projection.sources.map fun sources =>
      .array ((spec.config.withIdentity sources).map Json.string)),
    ("_source", spec.source),
    ("limit", spec.limit.map fun count => .number (.integer count.toNat (inRange_toNat count))),
    ("skip",
      if 0 < spec.offset then some (.number (.integer spec.offset.toNat (inRange_toNat spec.offset))) else none)]

def given (settings : List (String × Option Json)) : Fields :=
  settings.filterMap fun setting => setting.2.map (setting.1, ·)

theorem given_cons (key : String) (value : Option Json) (rest : List (String × Option Json)) :
    given ((key, value) :: rest) = CompiledQuery.member key value ++ given rest := by
  cases value <;> rfl

theorem members_compiledWith (spec : QuerySpec) {sorts : List Json}
    (sort : sortEntries spec.orderBy = if spec.orderBy = [] then none else some sorts) (fragment : Selector)
    (selector : Json) : (spec.compiledWith fragment).members selector = given (spec.settings selector sorts) := by
  have sorted : (spec.compiledWith fragment).sortJson =
      if spec.orderBy = [] then none else some (.array sorts) := by
    rw [CompiledQuery.sortJson, compiledWith, sort]
    split <;> rfl
  have fields : (spec.compiledWith fragment).fieldsJson = spec.projection.sources.map fun sources =>
      .array ((spec.config.withIdentity sources).map Json.string) := by
    rw [CompiledQuery.fieldsJson, compiledWith, requestedFields_eq, Option.map_map]
    rfl
  have skip : (spec.compiledWith fragment).skip.map Json.ofUInt64 =
      if 0 < spec.offset then some (.number (.integer spec.offset.toNat (inRange_toNat spec.offset))) else none := by
    rw [compiledWith, skipped]
    split <;> rfl
  rw [CompiledQuery.members, sorted, fields, skip]
  have none : given [] = [] := rfl
  simp only [settings, given_cons, none, List.append_assoc, List.append_nil]
  rfl

theorem body_compiledWith {spec : QuerySpec} {sorts : List Json} {fragment : Selector} {selector : Json}
    (sort : sortEntries spec.orderBy = if spec.orderBy = [] then none else some sorts)
    (read : (spec.compiledWith fragment).selector.toJson = .ok selector) :
    (spec.compiledWith fragment).body =
      .ok (.object (given (spec.settings selector sorts) ++
        CompiledQuery.gaps (given (spec.settings selector sorts)) spec.rawQuery)) := by
  rw [CompiledQuery.body, read, Except.map, members_compiledWith spec sort]
  rfl

theorem body_compiledWith_congr {spec : QuerySpec} {projection : Projection}
    (same : projection.sources = spec.projection.sources) (database : String) (options : RequestOptions)
    (fragment : Selector) :
    (({ spec with database, options, projection } : QuerySpec).compiledWith fragment).body =
      (spec.compiledWith fragment).body := by
  obtain ⟨sorts, _, sort⟩ := exists_sortEntries spec.orderBy
  have members (selector : Json) :
      (({ spec with database, options, projection } : QuerySpec).compiledWith fragment).members selector =
        (spec.compiledWith fragment).members selector :=
    calc _ = given (({ spec with database, options, projection } : QuerySpec).settings selector sorts) :=
          members_compiledWith { spec with database, options, projection } sort fragment selector
      _ = given (spec.settings selector sorts) := by simp only [settings, same]
      _ = _ := (members_compiledWith spec sort fragment selector).symm
  simp only [CompiledQuery.body, members]
  rfl

/-- The body of a compiled query: a fixed list of members, those that are set, and then extra members. The extra ones
are those of the keys that are left, in the order in which these were first written, each with the value that was
written last. Whatever other extra members are written, and whenever, what is compiled stays as it is. Nothing in the
body depends on the database, on the options or on the output names of the fields. -/
theorem body_members {accepts : String → Bool} {database : String} {steps : List Step} {spec : QuerySpec}
    {query : CompiledQuery} (built : spec = (ofDatabase database).run steps)
    (assembled : spec.assembleWith accepts = .ok query) :
    ((∃ body, query.body = .ok body) ↔ ∃ selector, query.selector.toJson = .ok selector) ∧
    (∃ sorts, List.Forall₂ SortEntry spec.orderBy sorts ∧
      (∀ selector, query.selector.toJson = .ok selector →
        ∃ extra, query.body = .ok (.object (given (spec.settings selector sorts) ++ extra)) ∧
          Fields.keys extra = (Fields.keys (steps.filterMap Step.extra?)).eraseDups.filter
            (fun key => key ∉ Fields.keys (given (spec.settings selector sorts))) ∧
          ∀ field ∈ extra, (steps.filterMap Step.extra?).reverse.lookup field.1 = some field.2) ∧
      (∀ others : List Step,
        (others.filter fun step => step.extra?.isNone) = (steps.filter fun step => step.extra?.isNone) →
          ∃ other, ((ofDatabase database).run others).assembleWith accepts = .ok other ∧
            other.selector = query.selector ∧
            ∀ selector, query.selector.toJson = .ok selector →
              ∃ extra, other.body = .ok (.object (given (spec.settings selector sorts) ++ extra)))) ∧
    (∀ database options projection, projection.sources = spec.projection.sources →
      ∃ other, ({ spec with database, options, projection } : QuerySpec).assembleWith accepts = .ok other ∧
        other.body = query.body) := by
  obtain ⟨fragment, compiled, rfl⟩ := assembleWith_eq_ok_iff.mp assembled
  have written : spec.rawQuery = .ofList (steps.filterMap Step.extra?) := by
    rw [built, rawQuery_run]
    rfl
  obtain ⟨sorts, each, sort⟩ := exists_sortEntries spec.orderBy
  refine ⟨?_, ⟨sorts, each, ?_, ?_⟩, ?_⟩
  · constructor
    · rintro ⟨body, made⟩
      obtain ⟨selector, read, _⟩ := CompiledQuery.body_eq_ok_iff.mp made
      exact ⟨selector, read⟩
    · rintro ⟨selector, read⟩
      exact ⟨_, body_compiledWith sort read⟩
  · intro selector read
    refine ⟨_, body_compiledWith sort read, ?_, ?_⟩
    · rw [written, CompiledQuery.keys_gaps]
    · intro field member
      rw [written] at member
      exact CompiledQuery.lookup_of_mem_gaps member
  · intro others same
    -- Both lists of steps build one description but for the extra members, which nothing compiled looks at.
    obtain ⟨writes, rewritten⟩ := exists_run_eq same
    rw [rewritten, ← built]
    exact ⟨_, assembleWith_eq_ok compiled, rfl, fun selector read => ⟨_, body_compiledWith sort read⟩⟩
  · intro database options projection same
    exact ⟨_, assembleWith_eq_ok compiled, body_compiledWith_congr same database options fragment⟩

def crowdedSteps : List Step :=
  [.rawQuery "limit" (.string "all"), .rawQuery "bookmark" (.string "a"), .limit 0, .source .null,
    .rawQuery "skip" (.bool true), .offset 0, .noFields, .orderBy "_id" .desc, .rawQuery "bookmark" .null,
    .rawQuery "_source" (.array [])]

theorem body_members_crowded :
    ∃ query, ((ofDatabase "films").run crowdedSteps).assemble = .ok query ∧
      query.body = .ok (.object
        [("selector", .object [("_id", .object [("$gt", .null)])]),
          ("sort", .array [.object [("_id", .string "desc")]]), ("fields", .array []), ("_source", .null),
          ("limit", .number (.integer 0 (by decide))), ("bookmark", .null), ("skip", .bool true)]) := by
  have assembled : ((ofDatabase "films").run crowdedSteps).assembleWith Pattern.accepts =
      .ok (((ofDatabase "films").run crowdedSteps).compiledWith .empty) := rfl
  obtain ⟨-, ⟨sorts, each, members, -⟩, -⟩ := body_members rfl assembled
  obtain rfl : sorts = [.object [("_id", .string "desc")]] := by
    obtain - | ⟨one, - | _⟩ := each
    cases one
    rfl
  obtain ⟨extra, body, keys, values⟩ := members (.object [("_id", .object [("$gt", .null)])]) rfl
  have names : Fields.keys extra = ["bookmark", "skip"] := keys
  obtain ⟨bookmark, skip, rfl⟩ : ∃ bookmark skip, extra = [("bookmark", bookmark), ("skip", skip)] := by
    simpa [Fields.keys, List.map_eq_cons_iff] using names
  have bookmarkLast : some Json.null = some bookmark := values ("bookmark", bookmark) (by simp)
  have skipLast : some (Json.bool true) = some skip := values ("skip", skip) (by simp)
  cases bookmarkLast
  cases skipLast
  exact ⟨_, assembled, body⟩

end QuerySpec

end FindQuery
