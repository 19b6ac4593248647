import FindQuery.Condition.Compile
import FindQuery.Proofs.Json.RoundTrip

namespace FindQuery

namespace Fields

def mapValues (change : String → Json → Json) (fields : Fields) : Fields :=
  fields.map fun field => (field.1, change field.1 field.2)

variable (change : String → Json → Json)

theorem keys_mapValues (fields : Fields) : keys (mapValues change fields) = keys fields := by
  simp [mapValues, keys]

theorem mapValues_insert (key : String) (value : Json) (fields : Fields) :
    mapValues change (insert key value fields) = insert key (change key value) (mapValues change fields) := by
  induction fields with
  | nil => rfl
  | cons field rest ih =>
    obtain ⟨k, old⟩ := field
    simp only [mapValues, List.map_cons, insert] at ih ⊢
    by_cases same : k = key
    · subst same
      simp only [if_true, List.map_cons]
    · simp only [if_neg same, List.map_cons, ih]

theorem mapValues_extend (fields writes : Fields) :
    mapValues change (extend fields writes) = extend (mapValues change fields) (mapValues change writes) := by
  induction writes generalizing fields with
  | nil => rfl
  | cons write rest ih =>
    have others := ih (insert write.1 write.2 fields)
    rw [mapValues_insert] at others
    exact others

theorem mapValues_ofList (writes : Fields) :
    mapValues change (ofList writes) = ofList (mapValues change writes) :=
  mapValues_extend change [] writes

theorem ofList_mapValues_ofList (writes : Fields) :
    ofList (mapValues change (ofList writes)) = ofList (mapValues change writes) := by
  have distinct : (keys (mapValues change (ofList writes))).Nodup := by
    rw [keys_mapValues]
    exact nodup_keys_ofList writes
  rw [ofList_of_nodup distinct, mapValues_ofList]

end Fields

namespace HashValue

def toJson : HashValue → Json
  | .literal value => value
  | .list values => .array values
  | .native value => value

def Classified (key : String) (value : HashValue) : Prop := value = classify key value.toJson

theorem classified_classify (key : String) (value : Json) : (classify key value).Classified key := by
  unfold Classified classify
  split
  · rfl
  · cases value <;> rfl

end HashValue

theorem Operator.ofName_name (op : Operator) : ofName op.name = .ok op := by
  cases op <;> rfl

mutual

/-- Conditions that can be written in JSON: no raw selector is a value, the values of hashes are of the kind that
they show, and only connectives have conditions as operands. -/
def Condition.Writable : Condition → Prop
  | .empty => True
  | .hash pairs => ∀ pair ∈ pairs, pair.2.Classified pair.1
  | .operation op operands => Operand.EachWritable (op.arity = none) operands
  | .raw selector => ∃ source, selector = .text source

def Operand.Writable (nested : Prop) : Operand → Prop
  | .condition condition => nested ∧ condition.Writable
  | .value _ => True

def Operand.EachWritable (nested : Prop) : List Operand → Prop
  | [] => True
  | operand :: rest => operand.Writable nested ∧ Operand.EachWritable nested rest

end

mutual

/-- What conditions are written as. An operator may go by any name that is read as the operator. -/
inductive Condition.Written : Condition → Json → Prop
  | empty : Condition.Written .empty .null
  | hash (pairs : List (String × HashValue)) :
    Condition.Written (.hash pairs) (.object (Fields.ofList (pairs.map fun pair => (pair.1, pair.2.toJson))))
  | operation {op : Operator} {name : String} {operands : List Operand} {values : List Json}
    (named : Operator.ofName name = .ok op) (operandwise : Operand.EachWritten operands values) :
    Condition.Written (.operation op operands) (.array (.string name :: values))
  | text (source : String) : Condition.Written (.raw (.text source)) (.string source)

inductive Operand.Written : Operand → Json → Prop
  | condition {condition : Condition} {value : Json} (written : Condition.Written condition value) :
    Operand.Written (.condition condition) value
  | value (value : Json) : Operand.Written (.value value) value

inductive Operand.EachWritten : List Operand → List Json → Prop
  | nil : Operand.EachWritten [] []
  | cons {operand : Operand} {rest : List Operand} {value : Json} {values : List Json}
    (first : Operand.Written operand value) (others : Operand.EachWritten rest values) :
    Operand.EachWritten (operand :: rest) (value :: values)

end

mutual

theorem Condition.exists_written : ∀ {condition : Condition}, condition.Writable → ∃ value, condition.Written value
  | .empty, _ => ⟨_, .empty⟩
  | .hash pairs, _ => ⟨_, .hash pairs⟩
  | .operation op _, writable => by
    obtain ⟨values, each⟩ := Operand.exists_eachWritten writable
    exact ⟨_, .operation op.ofName_name each⟩
  | .raw _, writable => by
    obtain ⟨source, rfl⟩ := writable
    exact ⟨_, .text source⟩

theorem Operand.exists_eachWritten {nested : Prop} :
    ∀ {operands : List Operand}, Operand.EachWritable nested operands → ∃ values, Operand.EachWritten operands values
  | [], _ => ⟨_, .nil⟩
  | .value value :: _, writable => by
    obtain ⟨values, others⟩ := Operand.exists_eachWritten writable.2
    exact ⟨_, .cons (.value value) others⟩
  | .condition _ :: _, writable => by
    obtain ⟨value, first⟩ := Condition.exists_written writable.1.2
    obtain ⟨values, others⟩ := Operand.exists_eachWritten writable.2
    exact ⟨_, .cons (.condition first) others⟩

end

theorem Operand.eq_map_value_of_eachWritten {nested : Prop} (never : ¬ nested) {operands : List Operand}
    {values : List Json} (writable : Operand.EachWritable nested operands)
    (written : Operand.EachWritten operands values) : operands = values.map Operand.value := by
  induction operands generalizing values with
  | nil =>
    cases written
    rfl
  | cons operand rest ih =>
    cases written with
    | cons first others =>
      cases first with
      | condition written => exact absurd writable.1.1 never
      | value value => rw [List.map_cons, ih writable.2 others]

theorem compileHash_written {pairs : List (String × HashValue)}
    (classified : ∀ pair ∈ pairs, pair.2.Classified pair.1) :
    compileHash ((Fields.ofList (pairs.map fun pair => (pair.1, pair.2.toJson))).map
      fun field => (field.1, HashValue.classify field.1 field.2)) = compileHash pairs := by
  let compiled : String → Json → Json := fun key value => (HashValue.classify key value).compile
  let writes : Fields := pairs.map fun pair => (pair.1, pair.2.toJson)
  have kinds : Fields.mapValues compiled writes = pairs.map fun pair => (pair.1, pair.2.compile) := by
    simp only [Fields.mapValues, writes, compiled, List.map_map]
    refine List.map_congr_left fun pair member => ?_
    have kind : pair.2 = HashValue.classify pair.1 pair.2.toJson := classified pair member
    simp only [Function.comp_apply, ← kind]
  have left : Fields.ofList (Fields.mapValues compiled (Fields.ofList writes)) =
      Fields.ofList (pairs.map fun pair => (pair.1, pair.2.compile)) := by
    rw [Fields.ofList_mapValues_ofList, kinds]
  apply Selector.ext
  simp only [compileHash, List.map_map]
  exact left

section

variable {accepts : String → Bool}

mutual

theorem Condition.compileJson_written : ∀ {condition : Condition} {value : Json}, condition.Writable →
    condition.Written value → compileJson accepts value = condition.compileWith accepts
  | .empty, _, _, .empty => rfl
  | .hash _, _, writable, .hash _ => by
    rw [compileJson, Condition.compileWith, compileHash_written writable]
  | .operation op operands, _, writable, .operation named operandwise => by
    rw [compileJson, named, Condition.compileWith]
    by_cases connective : op.arity = none
    · have each := Operand.compileJsonList_written writable operandwise
      simp only [connective, Option.isNone_none, if_true, each]
    · -- The operands are compiled as they are, and not as conditions that they might be read as.
      have values := Operand.eq_map_value_of_eachWritten connective writable operandwise
      simp only [values]
      rw [if_neg (by simpa using connective), if_neg (by simpa using connective)]
  | .raw _, _, _, .text _ => rfl

theorem Operand.compileJsonList_written {nested : Prop} : ∀ {operands : List Operand} {values : List Json},
    Operand.EachWritable nested operands → Operand.EachWritten operands values →
      compileJsonList accepts values = Operand.compileList accepts operands
  | [], _, _, .nil => rfl
  | .value _ :: _, _, writable, .cons (.value _) others => by
    rw [compileJsonList, Operand.compileList, Operand.compileWith,
      Operand.compileJsonList_written writable.2 others]
  | .condition _ :: _, _, writable, .cons (.condition written) others => by
    rw [compileJsonList, Operand.compileList, Operand.compileWith,
      Condition.compileJson_written writable.1.2 written, Operand.compileJsonList_written writable.2 others]

end

end

/-- A condition can be written in JSON, and whatever it is written as, reading that and compiling it has the outcome
of compiling the condition: the same selector, in the same order, or the same error. -/
theorem compile_written (accepts : String → Bool) {condition : Condition} (writable : condition.Writable) :
    (∃ value, condition.Written value) ∧
      ∀ value, condition.Written value →
        (Condition.ofJson value).bind (Condition.compileWith accepts) = condition.compileWith accepts := by
  refine ⟨Condition.exists_written writable, fun value written => ?_⟩
  rw [← compileJson_eq_ofJson_bind]
  exact Condition.compileJson_written writable written

def taggedCondition : Condition :=
  .operation .or
    [.condition (.ofPairs [("tag", .string "a"), ("seen", .null), ("tag", .array [.string "b"])]),
      .value (.array [.string "like", .string "tag", .string "c"]),
      .condition (.isIn "tag" [])]

def taggedValue : Json :=
  .array [.string " oR", .object [("tag", .array [.string "b"]), ("seen", .null)],
    .array [.string "like", .string "tag", .string "c"],
    .array [.string "In", .string "tag", .array []]]

theorem compile_written_tagged :
    taggedCondition.Writable ∧ taggedCondition.Written taggedValue ∧
      (Condition.ofJson taggedValue).bind (Condition.compileWith Pattern.accepts) =
        taggedCondition.compileWith Pattern.accepts := by
  have writable : taggedCondition.Writable := by
    refine ⟨⟨rfl, ?_⟩, trivial, ⟨rfl, trivial, trivial, trivial⟩, trivial⟩
    intro pair member
    obtain ⟨field, _, rfl⟩ := List.mem_map.mp member
    exact HashValue.classified_classify field.1 field.2
  have pairs : (Condition.ofPairs [("tag", .string "a"), ("seen", .null), ("tag", .array [.string "b"])]).Written
      (.object [("tag", .array [.string "b"]), ("seen", .null)]) := .hash _
  have membership : (Condition.isIn "tag" []).Written (.array [.string "In", .string "tag", .array []]) :=
    .operation rfl (.cons (.value _) (.cons (.value _) .nil))
  have written : taggedCondition.Written taggedValue :=
    .operation rfl (.cons (.condition pairs) (.cons (.value _) (.cons (.condition membership) .nil)))
  exact ⟨writable, written, (compile_written Pattern.accepts writable).2 taggedValue written⟩

end FindQuery
