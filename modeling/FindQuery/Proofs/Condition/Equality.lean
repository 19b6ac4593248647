import FindQuery.Proofs.Condition.Checks
import FindQuery.Proofs.Condition.Shorthand
import FindQuery.Proofs.Condition.WellFormed
import FindQuery.Proofs.Json.Equality

namespace FindQuery

theorem Fields.get?_mapValues (change : String → Json → Json) (key : String) (fields : Fields) :
    get? key (mapValues change fields) = (get? key fields).map (change key) := by
  induction fields with
  | nil => rfl
  | cons field rest ih =>
    simp only [mapValues, List.map_cons, get?] at ih ⊢
    by_cases same : field.1 = key
    · rw [if_pos same, if_pos same, same, Option.map_some]
    · rw [if_neg same, if_neg same, ih]

theorem Fields.Agree.mapValues {fields others : Fields} {change : String → Json → Json} (agree : Agree fields others)
    (kept : ∀ key {value other : Json}, value.Equal other → (change key value).Equal (change key other)) :
    Agree (mapValues change fields) (mapValues change others) := by
  intro key
  have related := agree key
  rw [get?_mapValues, get?_mapValues]
  generalize get? key fields = found, get? key others = other at related ⊢
  cases related with
  | some equal => exact .some (kept key equal)
  | none => exact .none

theorem alike_malformed {α β : Type} {related : α → β → Prop} (cause other : MalformedCondition) :
    Alike related (malformed cause) (malformed other) := .error rfl

namespace HashValue

def Equal (value other : HashValue) : Prop := value.same other = true

theorem equal_compile {value other : HashValue} (equal : value.Equal other) : value.compile.Equal other.compile := by
  cases value <;> cases other <;> simp only [Equal, same, Bool.false_eq_true] at equal
  case literal => exact equal
  case native => exact equal
  case list values others =>
    have lists : (Json.array values).Equal (.array others) := equal
    exact Fields.equal_object_of_equalEntry (by simp [Fields.keys]) (.cons ⟨rfl, lists⟩ .nil)

theorem equal_compile_classify (key : String) {value other : Json} (equal : value.Equal other) :
    (classify key value).compile.Equal (classify key other).compile := by
  unfold classify
  split
  · exact equal
  · -- Equal values are of one kind, and so are the hash values that they show.
    cases equal.parts with
    | array each =>
      rename_i items others
      have lists : (HashValue.list items).Equal (.list others) := equal
      exact equal_compile lists
    | _ => exact equal

theorem samePairs_iff {pairs others : List (String × HashValue)} :
    samePairs pairs others = true ↔
      List.Forall₂ (fun pair other => pair.1 = other.1 ∧ pair.2.Equal other.2) pairs others := by
  induction pairs generalizing others with
  | nil => cases others <;> simp [samePairs]
  | cons pair rest ih => cases others <;> simp [samePairs, ih, Equal]

end HashValue

theorem equal_compileHash {pairs others : List (String × HashValue)}
    (equal : HashValue.samePairs pairs others = true) : (compileHash pairs).Equal (compileHash others) := by
  have writes : List.Forall₂ Fields.EqualEntry (pairs.map fun pair => (pair.1, pair.2.compile))
      (others.map fun pair => (pair.1, pair.2.compile)) := by
    rw [List.forall₂_map_left_iff, List.forall₂_map_right_iff]
    refine (HashValue.samePairs_iff.mp equal).imp ?_
    rintro pair other ⟨key, equal⟩
    exact ⟨key, HashValue.equal_compile equal⟩
  exact Selector.equal_iff_agree.mpr (Fields.agree_ofList writes)

theorem equal_compileHash_classify {fields others : Fields} (distinct : (Fields.keys fields).Nodup)
    (otherDistinct : (Fields.keys others).Nodup) (equal : (Json.object fields).Equal (.object others)) :
    (compileHash (fields.map fun field => (field.1, HashValue.classify field.1 field.2))).Equal
      (compileHash (others.map fun field => (field.1, HashValue.classify field.1 field.2))) := by
  let compiled : String → Json → Json := fun key value => (HashValue.classify key value).compile
  have entries (fields : Fields) (distinct : (Fields.keys fields).Nodup) :
      (compileHash (fields.map fun field => (field.1, HashValue.classify field.1 field.2))).entries =
        Fields.mapValues compiled fields := by
    have kept : (Fields.keys (Fields.mapValues compiled fields)).Nodup := by rwa [Fields.keys_mapValues]
    rw [compileHash, List.map_map]
    exact Fields.ofList_of_nodup kept
  rw [Selector.equal_iff_agree, entries fields distinct, entries others otherDistinct]
  exact ((Fields.equal_object_iff_agree distinct otherDistinct).mp equal).mapValues HashValue.equal_compile_classify

theorem equal_ofFields {fields others : Fields} (distinct : (Fields.keys fields).Nodup)
    (otherDistinct : (Fields.keys others).Nodup) (equal : (Json.object fields).Equal (.object others)) :
    (Selector.ofFields fields).Equal (Selector.ofFields others) := by
  rw [Selector.equal_iff_agree, Selector.ofFields, Selector.ofFields]
  simp only [Fields.ofList_of_nodup distinct, Fields.ofList_of_nodup otherDistinct]
  exact (Fields.equal_object_iff_agree distinct otherDistinct).mp equal

theorem alike_structured {value other : Json} (formed : value.WellFormed) (otherFormed : other.WellFormed)
    (equal : value.Equal other) :
    Alike Selector.Equal (RawSelector.structured value).compile (RawSelector.structured other).compile := by
  cases equal.parts with
  | object _ _ => exact .ok (equal_ofFields formed.1 otherFormed.1 equal)
  | _ => exact alike_malformed _ _

theorem alike_text (source : String) :
    Alike Selector.Equal (RawSelector.text source).compile (RawSelector.text source).compile := by
  cases compiled : (RawSelector.text source).compile with
  | error error => exact .error rfl
  | ok fragment =>
    obtain ⟨fields, read, rfl⟩ := RawSelector.compile_eq_ok_iff.mp compiled
    have formed : (Json.object fields).WellFormed := Json.wellFormed_of_parse? read
    exact .ok (equal_ofFields formed.1 formed.1 (Json.equal_refl formed))

theorem alike_raw {raw other : RawSelector} (formed : raw.WellFormed) (otherFormed : other.WellFormed)
    (equal : raw.same other = true) : Alike Selector.Equal raw.compile other.compile := by
  cases raw <;> cases other <;> simp only [RawSelector.same, Bool.false_eq_true] at equal
  case text source other =>
    rw [eq_of_beq equal]
    exact alike_text other
  case structured => exact alike_structured formed otherFormed equal

namespace Operand

def Equal (operand other : Operand) : Prop := operand.same other = true

theorem equal_value_iff {value : Json} {other : Operand} :
    (Operand.value value).Equal other ↔ ∃ otherValue, other = .value otherValue ∧ value.Equal otherValue := by
  cases other <;> simp [Equal, same, Json.Equal]

theorem equal_condition_iff {condition : Condition} {other : Operand} :
    (Operand.condition condition).Equal other ↔
      ∃ otherCondition, other = .condition otherCondition ∧ condition.same otherCondition = true := by
  cases other <;> simp [Equal, same]

theorem sameList_iff {operands others : List Operand} :
    sameList operands others = true ↔ List.Forall₂ Equal operands others := by
  induction operands generalizing others with
  | nil => cases others <;> simp [sameList]
  | cons operand rest ih => cases others <;> simp [sameList, ih, Equal]

end Operand

namespace Operator

variable {op : Operator} {accepts : String → Bool}

theorem alike_valueOf {operand other : Operand} (equal : operand.Equal other) :
    Alike Json.Equal (op.valueOf operand) (op.valueOf other) := by
  cases operand with
  | condition condition =>
    obtain ⟨otherCondition, rfl, _⟩ := Operand.equal_condition_iff.mp equal
    exact alike_malformed _ _
  | value value =>
    obtain ⟨otherValue, rfl, equal⟩ := Operand.equal_value_iff.mp equal
    exact .ok equal

theorem alike_columnName {column other : Operand} (equal : column.Equal other) :
    Alike Eq (op.columnName column) (op.columnName other) := by
  cases column with
  | condition condition =>
    obtain ⟨otherCondition, rfl, _⟩ := Operand.equal_condition_iff.mp equal
    exact alike_malformed _ _
  | value value =>
    obtain ⟨otherValue, rfl, values⟩ := Operand.equal_value_iff.mp equal
    cases values.parts with
    | string name => exact .refl _
    | _ => exact alike_malformed _ _

theorem alike_membershipColumn {column other : Operand} (equal : column.Equal other) :
    Alike Eq (op.membershipColumn column) (op.membershipColumn other) := by
  cases column with
  | condition condition =>
    obtain ⟨otherCondition, rfl, _⟩ := Operand.equal_condition_iff.mp equal
    exact alike_malformed _ _
  | value value =>
    obtain ⟨otherValue, rfl, values⟩ := Operand.equal_value_iff.mp equal
    cases values.parts with
    | array each =>
      cases each with
      | nil => exact alike_malformed _ _
      | cons first rest =>
        cases rest with
        | nil => exact alike_columnName (Operand.equal_value_iff.mpr ⟨_, rfl, first⟩)
        | cons _ _ => exact .error rfl
    | _ => exact alike_columnName equal

theorem alike_patternText {value other : Json} (equal : value.Equal other) :
    Alike Eq (op.patternText value) (op.patternText other) := by
  cases equal.parts with
  | string pattern => exact .refl _
  | _ => exact alike_malformed _ _

theorem equal_membershipValues {value other : Json} (equal : value.Equal other) :
    (Json.array (membershipValues value)).Equal (.array (membershipValues other)) := by
  cases equal.parts with
  | array each => exact equal
  | _ => exact (Json.EqualParts.array (.cons equal .nil)).equal

variable {column otherColumn : Operand}

theorem alike_compileRange {lowerToken upperToken : String} (distinct : lowerToken ≠ upperToken)
    {lower upper otherLower otherUpper : Operand} (columns : column.Equal otherColumn)
    (lowers : lower.Equal otherLower) (uppers : upper.Equal otherUpper) :
    Alike Selector.Equal (op.compileRange lowerToken upperToken column lower upper)
      (op.compileRange lowerToken upperToken otherColumn otherLower otherUpper) := by
  refine (alike_columnName columns).bind ?_
  rintro name _ rfl
  refine (alike_valueOf lowers).bind fun least => (alike_valueOf uppers).bind fun greatest => .ok ?_
  refine Selector.equal_single (Fields.equal_object_of_equalEntry ?_ ?_)
  · simpa [Fields.keys] using distinct
  · exact .cons ⟨rfl, least⟩ (.cons ⟨rfl, greatest⟩ .nil)

theorem alike_compileMembership {values otherValues : Operand} (columns : column.Equal otherColumn)
    (equal : values.Equal otherValues) :
    Alike Selector.Equal (op.compileMembership column values) (op.compileMembership otherColumn otherValues) := by
  refine (alike_membershipColumn columns).bind ?_
  rintro name _ rfl
  refine (alike_valueOf equal).bind fun given => .ok (Selector.equal_single ?_)
  exact Fields.equal_object_of_equalEntry (by simp [Fields.keys]) (.cons ⟨rfl, equal_membershipValues given⟩ .nil)

theorem alike_compilePattern {pattern otherPattern : Operand} (columns : column.Equal otherColumn)
    (equal : pattern.Equal otherPattern) :
    Alike Selector.Equal (op.compilePattern accepts column pattern)
      (op.compilePattern accepts otherColumn otherPattern) := by
  refine (alike_columnName columns).bind ?_
  rintro name _ rfl
  refine (alike_valueOf equal).bind fun given => (alike_patternText given).bind ?_
  rintro text _ rfl
  split
  · refine .ok (Selector.equal_single (Json.equal_refl ?_))
    exact ⟨by simp [Fields.keys], trivial, trivial⟩
  · exact .error rfl

theorem alike_compileFixed (fixed : op.arity ≠ none) {operands others : List Operand}
    (equal : List.Forall₂ Operand.Equal operands others) :
    Alike Selector.Equal (op.compileFixed accepts operands) (op.compileFixed accepts others) := by
  obtain ⟨expected, arity⟩ := Option.ne_none_iff_exists'.mp fixed
  by_cases count : operands.length = expected
  · subst count
    cases op <;> simp only [Operator.arity, reduceCtorEq, Option.some.injEq] at arity
    case between | notBetween =>
      obtain ⟨column, lower, upper, rfl⟩ := List.length_eq_three.mp arity.symm
      obtain _ | ⟨columns, _ | ⟨lowers, _ | ⟨uppers, _ | _⟩⟩⟩ := equal
      exact alike_compileRange (by decide) columns lowers uppers
    case isIn | notIn =>
      obtain ⟨column, values, rfl⟩ := List.length_eq_two.mp arity.symm
      obtain _ | ⟨columns, _ | ⟨given, _ | _⟩⟩ := equal
      exact alike_compileMembership columns given
    case regex | like =>
      obtain ⟨column, pattern, rfl⟩ := List.length_eq_two.mp arity.symm
      obtain _ | ⟨columns, _ | ⟨given, _ | _⟩⟩ := equal
      exact alike_compilePattern columns given
  · have otherCount : others.length ≠ expected := equal.length_eq ▸ count
    rw [compileFixed_of_count arity count, compileFixed_of_count arity otherCount]
    exact .error rfl

end Operator

section

variable {accepts : String → Bool}

theorem equal_group {op : Operator} {fragments others : List Selector}
    (equal : List.Forall₂ Selector.Equal fragments others) : (op.group fragments).Equal (op.group others) := by
  refine Selector.equal_single (Json.EqualParts.array ?_).equal
  rw [List.forall₂_map_left_iff, List.forall₂_map_right_iff]
  exact equal

theorem alike_operation {op : Operator} {operands others : List Operand}
    {fragments otherFragments : Except Error (List Selector)}
    (operandwise : Alike (List.Forall₂ Selector.Equal) fragments otherFragments)
    (equal : List.Forall₂ Operand.Equal operands others) :
    Alike Selector.Equal
      (if op.arity.isNone then fragments.map op.group else op.compileFixed accepts operands)
      (if op.arity.isNone then otherFragments.map op.group else op.compileFixed accepts others) := by
  split
  · exact operandwise.map equal_group
  · next fixed => exact Operator.alike_compileFixed (mt Option.isNone_iff_eq_none.mpr fixed) equal

mutual

theorem alike_compileJson : ∀ {value other : Json}, value.WellFormed → other.WellFormed → value.Equal other →
    Alike Selector.Equal (compileJson accepts value) (compileJson accepts other)
  | .null, _, _, _, equal => by
    cases equal.parts
    exact .ok rfl
  | .string source, _, _, _, equal => by
    cases equal.parts
    exact alike_text source
  | .object _, _, formed, otherFormed, equal => by
    cases equal.parts
    exact .ok (equal_compileHash_classify formed.1 otherFormed.1 equal)
  | .bool _, _, _, _, equal | .number _, _, _, _, equal => by
    cases equal.parts
    exact alike_malformed _ _
  | .array [], _, _, _, equal => by
    cases equal.parts with
    | array each =>
      cases each
      exact .ok rfl
  | .array (_ :: operands), _, formed, otherFormed, equal => by
    cases equal.parts with
    | array each =>
      cases each with
      | cons first rest =>
        cases first.parts with
        | string name =>
          rw [compileJson, compileJson]
          cases Operator.ofName name with
          | error error => exact .error rfl
          | ok op =>
            -- A connective has the values after its name compiled; any other operator takes them as they are.
            refine alike_operation (alike_compileJsonList formed.2 otherFormed.2 rest) ?_
            rw [List.forall₂_map_left_iff, List.forall₂_map_right_iff]
            exact rest
        | _ => exact alike_malformed _ _

theorem alike_compileJsonList : ∀ {values others : List Json}, Json.WellFormedItems values →
    Json.WellFormedItems others → List.Forall₂ Json.Equal values others →
      Alike (List.Forall₂ Selector.Equal) (compileJsonList accepts values) (compileJsonList accepts others)
  | [], _, _, _, .nil => .ok .nil
  | _ :: _, _ :: _, formed, otherFormed, .cons first others =>
    (alike_compileJson formed.1 otherFormed.1 first).bind fun compiled =>
      (alike_compileJsonList formed.2 otherFormed.2 others).bind fun more => .ok (.cons compiled more)

end

mutual

theorem Condition.alike_compileWith : ∀ {condition other : Condition}, condition.WellFormed → other.WellFormed →
    condition.same other = true → Alike Selector.Equal (condition.compileWith accepts) (other.compileWith accepts)
  | .empty, .empty, _, _, _ => .ok rfl
  | .hash _, .hash _, _, _, equal => .ok (equal_compileHash equal)
  | .operation op operands, .operation _ _, formed, otherFormed, equal => by
    obtain ⟨sameOperator, operandwise⟩ := Bool.and_eq_true_iff.mp equal
    cases eq_of_beq sameOperator
    rw [Condition.compileWith, Condition.compileWith]
    have each := Operand.sameList_iff.mp operandwise
    exact alike_operation (Operand.alike_compileList formed otherFormed each) each
  | .raw _, .raw _, formed, otherFormed, equal => alike_raw formed otherFormed equal

theorem Operand.alike_compileWith : ∀ {operand other : Operand}, operand.WellFormed → other.WellFormed →
    operand.Equal other → Alike Selector.Equal (operand.compileWith accepts) (other.compileWith accepts)
  | .condition _, .condition _, formed, otherFormed, equal => Condition.alike_compileWith formed otherFormed equal
  | .value _, .value _, formed, otherFormed, equal => alike_compileJson formed otherFormed equal

theorem Operand.alike_compileList : ∀ {operands others : List Operand}, Operand.WellFormedList operands →
    Operand.WellFormedList others → List.Forall₂ Operand.Equal operands others →
      Alike (List.Forall₂ Selector.Equal) (Operand.compileList accepts operands) (Operand.compileList accepts others)
  | [], _, _, _, .nil => .ok .nil
  | _ :: _, _ :: _, formed, otherFormed, .cons first others =>
    (Operand.alike_compileWith formed.1 otherFormed.1 first).bind fun compiled =>
      (Operand.alike_compileList formed.2 otherFormed.2 others).bind fun more => .ok (.cons compiled more)

end

end

/-- Equal conditions are both compiled, into equal selectors, or both refused, with errors of one kind. -/
theorem compileWith_of_same (accepts : String → Bool) {condition other : Condition} (formed : condition.WellFormed)
    (otherFormed : other.WellFormed) (equal : condition.same other = true) :
    (∃ fragment otherFragment, condition.compileWith accepts = .ok fragment ∧
      other.compileWith accepts = .ok otherFragment ∧ fragment.same otherFragment = true) ∨
    (∃ error otherError, condition.compileWith accepts = .error error ∧
      other.compileWith accepts = .error otherError ∧ error.kind = otherError.kind) := by
  have alike : Alike Selector.Equal (condition.compileWith accepts) (other.compileWith accepts) :=
    Condition.alike_compileWith formed otherFormed equal
  generalize condition.compileWith accepts = outcome, other.compileWith accepts = otherOutcome at alike ⊢
  cases alike with
  | ok results => exact .inl ⟨_, _, rfl, rfl, results⟩
  | error kinds => exact .inr ⟨_, _, rfl, rfl, kinds⟩

def sizedCondition : Condition :=
  .operation .and
    [.value (.object [("title", .string "M"), ("size", .array [.number (.real Binary64.zero)])]),
      .condition (.notIn "size" [.object [("width", .null), ("height", .null)]])]

def sizedReordered : Condition :=
  .operation .and
    [.value (.object [("size", .array [.number (.real (Binary64.zero.withSign true))]), ("title", .string "M")]),
      .condition (.notIn "size" [.object [("height", .null), ("width", .null)]])]

theorem compileWith_of_same_sized :
    sizedCondition.WellFormed ∧ sizedReordered.WellFormed ∧ sizedCondition.same sizedReordered = true ∧
      ((∃ fragment otherFragment, sizedCondition.compileWith Pattern.accepts = .ok fragment ∧
        sizedReordered.compileWith Pattern.accepts = .ok otherFragment ∧ fragment.same otherFragment = true) ∨
      (∃ error otherError, sizedCondition.compileWith Pattern.accepts = .error error ∧
        sizedReordered.compileWith Pattern.accepts = .error otherError ∧ error.kind = otherError.kind)) := by
  have formed : sizedCondition.WellFormed := by
    simp [sizedCondition, Condition.notIn, Operand.text, Condition.WellFormed, Operand.WellFormedList,
      Operand.WellFormed, Json.WellFormed, Json.WellFormedFields, Json.WellFormedItems, Fields.keys]
  have otherFormed : sizedReordered.WellFormed := by
    simp [sizedReordered, Condition.notIn, Operand.text, Condition.WellFormed, Operand.WellFormedList,
      Operand.WellFormed, Json.WellFormed, Json.WellFormedFields, Json.WellFormedItems, Fields.keys]
  have equal : sizedCondition.same sizedReordered = true := by decide
  exact ⟨formed, otherFormed, equal, compileWith_of_same Pattern.accepts formed otherFormed equal⟩

end FindQuery
