import FindQuery.Proofs.Condition.Hash

namespace FindQuery

/-- No list stands under the name of a field, where it would be read as a membership. -/
def Selector.Listless (fragment : Selector) : Prop :=
  ∀ entry ∈ fragment.entries, Token.isNative entry.1 = false → ∀ items, entry.2 ≠ .array items

def Condition.RootClassified : Condition → Prop
  | .hash pairs => ∀ pair ∈ pairs, pair.2.Classified pair.1
  | .raw _ => False
  | _ => True

namespace HashValue

theorem compile_classify_eq_iff {key : String} {value : Json} :
    (classify key value).compile = value ↔ (Token.isNative key = false → ∀ items, value ≠ .array items) := by
  cases native : Token.isNative key <;> cases value <;> simp [classify, native, compile]

theorem Classified.compile_ne_array {key : String} {value : HashValue} (classified : value.Classified key)
    (plain : Token.isNative key = false) (items : List Json) : value.compile ≠ .array items := by
  have kind : value = classify key value.toJson := classified
  rw [kind]
  cases value.toJson <;> simp [classify, plain, compile]

end HashValue

theorem Condition.exists_ofJson_object (fields : Fields) :
    ∃ condition, Condition.ofJson (.object fields) = .ok condition ∧
      ∀ accepts, condition.compileWith accepts =
        .ok (compileHash (fields.map fun field => (field.1, HashValue.classify field.1 field.2))) := by
  cases fields with
  | nil => exact ⟨.empty, rfl, fun _ => rfl⟩
  | cons field rest => exact ⟨.ofPairs (field :: rest), rfl, fun _ => rfl⟩

theorem compileHash_classify_eq_iff (fragment : Selector) :
    compileHash (fragment.entries.map fun entry => (entry.1, HashValue.classify entry.1 entry.2)) = fragment ↔
      fragment.Listless := by
  let recompiled : String × Json → String × Json := fun entry =>
    (entry.1, (HashValue.classify entry.1 entry.2).compile)
  have distinct : ((fragment.entries.map fun entry =>
      (entry.1, HashValue.classify entry.1 entry.2)).map Prod.fst).Nodup := by
    simpa [Fields.keys, Function.comp_def] using fragment.nodup_keys
  have entrywise : fragment.entries.map recompiled = fragment.entries ↔
      ∀ entry ∈ fragment.entries, recompiled entry = entry := by
    simpa using List.map_inj_left (l := fragment.entries) (f := recompiled) (g := id)
  rw [Selector.ext_iff, entries_compileHash distinct, List.map_map]
  apply entrywise.trans
  apply forall₂_congr
  rintro ⟨key, value⟩ _
  rw [Prod.mk.injEq, and_iff_right rfl]
  exact HashValue.compile_classify_eq_iff

theorem Selector.listless_single {key : String} {value : Json}
    (apart : Token.isNative key = true ∨ ∀ items, value ≠ .array items) : (single key value).Listless := by
  intro entry member plain
  rw [List.mem_singleton.mp member] at plain ⊢
  rcases apart with native | other
  · rw [native] at plain
    cases plain
  · exact other

theorem listless_compileHash {pairs : List (String × HashValue)}
    (classified : (Condition.hash pairs).RootClassified) : (compileHash pairs).Listless := by
  intro entry member plain
  obtain ⟨pair, inside, rfl⟩ := List.mem_map.mp (Fields.mem_of_mem_ofList member)
  exact (classified pair inside).compile_ne_array plain

theorem Operator.isNative_token {op : Operator} (connective : op.arity = none) : Token.isNative op.token = true := by
  cases op <;> cases connective <;> decide

namespace Condition

theorem listless_of_rootClassified {accepts : String → Bool} {condition : Condition} {fragment : Selector}
    (compiled : condition.compileWith accepts = .ok fragment) (classified : condition.RootClassified) :
    fragment.Listless := by
  have steps : CompiledCases fun condition fragment => condition.RootClassified → fragment.Listless :=
    { empty := fun _ entry member => by cases member
      hash := fun _ => listless_compileHash
      group := fun connective _ _ => Selector.listless_single (.inl (Operator.isNative_token connective))
      fixed := fun _ _ => Selector.listless_single (.inr fun _ same => by cases same)
      raw := fun _ raw => raw.elim }
  exact steps.condition compiled classified

theorem rootClassified_ofPairs (pairs : List (String × Json)) : (ofPairs pairs).RootClassified := by
  intro pair member
  obtain ⟨field, _, rfl⟩ := List.mem_map.mp member
  exact HashValue.classified_classify field.1 field.2

theorem rootClassified_of_ofJson {value : Json} {condition : Condition} (read : ofJson value = .ok condition)
    (other : ∀ source, value ≠ .string source) : condition.RootClassified := by
  unfold ofJson at read
  split at read
  case h_1 | h_3 | h_5 =>
    cases read
    trivial
  case h_2 source => exact absurd rfl (other source)
  case h_4 fields _ =>
    cases read
    exact rootClassified_ofPairs fields
  case h_6 =>
    obtain ⟨op, _, rfl⟩ := map_eq_ok_iff.mp read
    trivial
  case h_7 | h_8 => cases read

end Condition

/-- What a condition is compiled into is a condition itself. That is compiled into the same, in the same order, just if
no list stands under the name of a field, and so it is for whatever is read from a value that is no string, built of
pairs or built with an operator. -/
theorem compiled_again_iff {accepts : String → Bool} {condition : Condition} {fragment : Selector}
    (compiled : condition.compileWith accepts = .ok fragment) :
    ∃ again, Condition.ofJson fragment.toJson = .ok again ∧
      (again.compileWith accepts = .ok fragment ↔ fragment.Listless) ∧
      (condition.RootClassified → fragment.Listless ∧ again.compileWith accepts = .ok fragment) ∧
      (∀ pairs, (Condition.ofPairs pairs).RootClassified) ∧
      (∀ op operands, (Condition.operation op operands).RootClassified) ∧
      ∀ value own, Condition.ofJson value = .ok own → (∀ source, value ≠ .string source) → own.RootClassified := by
  obtain ⟨again, read, whole⟩ := Condition.exists_ofJson_object fragment.entries
  have same : again.compileWith accepts = .ok fragment ↔ fragment.Listless := by
    rw [whole, Except.ok.injEq]
    exact compileHash_classify_eq_iff fragment
  refine ⟨again, read, same, fun classified => ?_, Condition.rootClassified_ofPairs, fun _ _ => trivial,
    fun _ _ => Condition.rootClassified_of_ofJson⟩
  have listless : fragment.Listless := Condition.listless_of_rootClassified compiled classified
  exact ⟨listless, same.mpr listless⟩

def taggedPairs : List (String × Json) :=
  [("tag", .array [.string "b"]), ("$or", .array [.object [("seen", .bool true)]]),
    ("year", .object [("$gt", .null)])]

def taggedEntries : Selector where
  entries := [("tag", .object [("$in", .array [.string "b"])]),
    ("$or", .array [.object [("seen", .bool true)]]), ("year", .object [("$gt", .null)])]

def rawList : Selector := .single "tag" (.array [.string "b"])

theorem compiled_again_iff_tagged :
    (∃ again, (Condition.ofPairs taggedPairs).compileWith Pattern.accepts = .ok taggedEntries ∧
      Condition.ofJson taggedEntries.toJson = .ok again ∧ again.compileWith Pattern.accepts = .ok taggedEntries) ∧
    ∃ again, (Condition.raw (.structured rawList.toJson)).compileWith Pattern.accepts = .ok rawList ∧
      Condition.ofJson rawList.toJson = .ok again ∧ again.compileWith Pattern.accepts ≠ .ok rawList := by
  constructor
  · have compiled : (Condition.ofPairs taggedPairs).compileWith Pattern.accepts = .ok taggedEntries := rfl
    obtain ⟨again, read, _, settled, classified, _⟩ := compiled_again_iff compiled
    exact ⟨again, compiled, read, (settled (classified taggedPairs)).2⟩
  · have compiled : (Condition.raw (.structured rawList.toJson)).compileWith Pattern.accepts = .ok rawList := rfl
    obtain ⟨again, read, same, _⟩ := compiled_again_iff compiled
    refine ⟨again, compiled, read, fun recompiled => ?_⟩
    have listless : rawList.Listless := same.mp recompiled
    exact listless _ List.mem_cons_self (by decide) [.string "b"] rfl

end FindQuery
