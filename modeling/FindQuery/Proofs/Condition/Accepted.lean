import FindQuery.Condition.Compile
import FindQuery.Proofs.Outcome

namespace FindQuery

def RawSelector.value? : RawSelector → Option Json
  | .text source => Json.parse? source
  | .structured value => some value

theorem RawSelector.compile_eq_ok_iff {raw : RawSelector} {fragment : Selector} :
    raw.compile = .ok fragment ↔ ∃ fields, raw.value? = some (.object fields) ∧ fragment = .ofFields fields := by
  cases raw with
  | structured value => cases value <;> simp [compile, value?, malformed, eq_comm]
  | text source =>
    simp only [compile, value?]
    cases Json.parse? source with
    | none => simp [malformed]
    | some value => cases value <;> simp [malformed, eq_comm]

def Operand.toCondition : Operand → Except Error Condition
  | .condition own => .ok own
  | .value written => Condition.ofJson written

def Operand.Names (operand : Operand) (name : String) : Prop := operand = .text name ∧ name ≠ ""

def Operand.NamesMember (operand : Operand) (name : String) : Prop :=
  operand.Names name ∨ operand = .value (.array [.string name]) ∧ name ≠ ""

theorem Operand.Names.unique {column : Operand} {name other : String} (named : column.Names name)
    (again : column.Names other) : name = other := by
  rcases named with ⟨rfl, _⟩
  rcases again with ⟨same, _⟩
  cases same
  rfl

theorem Operand.NamesMember.unique {column : Operand} {name other : String} (named : column.NamesMember name)
    (again : column.NamesMember other) : name = other := by
  rcases named with ⟨rfl, _⟩ | ⟨rfl, _⟩ <;> rcases again with ⟨same, _⟩ | ⟨same, _⟩ <;> cases same <;> rfl

namespace Operator

theorem columnName_eq_ok_iff {op : Operator} {operand : Operand} {name : String} :
    op.columnName operand = .ok name ↔ operand.Names name := by
  unfold columnName Operand.Names Operand.text
  split
  · next text =>
    by_cases empty : text = ""
    · simp [empty, malformed]
    · simp [empty]
      grind
  · next other =>
    simp only [malformed, reduceCtorEq, false_iff, not_and]
    intro named
    exact absurd named (other name)

theorem membershipColumn_eq_ok_iff {op : Operator} {operand : Operand} {name : String} :
    op.membershipColumn operand = .ok name ↔ operand.NamesMember name := by
  unfold membershipColumn Operand.NamesMember
  split
  · simp [malformed, Operand.Names, Operand.text]
  · next column =>
    rw [columnName_eq_ok_iff]
    simp [Operand.Names, Operand.text]
  · next columns _ single =>
    simp only [reduceCtorEq, Operand.Names, Operand.text, Operand.value.injEq, Json.array.injEq, false_and,
      false_or, false_iff, not_and]
    intro named
    exact absurd named (single _)
  · next _ single _ =>
    rw [columnName_eq_ok_iff]
    simp only [iff_self_or, and_imp]
    intro named
    exact (single _ named).elim

theorem valueOf_eq_ok_iff {op : Operator} {operand : Operand} {value : Json} :
    op.valueOf operand = .ok value ↔ operand = .value value := by
  cases operand <;> simp [valueOf, malformed]

theorem patternText_eq_ok_iff {op : Operator} {value : Json} {pattern : String} :
    op.patternText value = .ok pattern ↔ value = .string pattern := by
  cases value <;> simp [patternText, malformed]

theorem compileRange_eq_ok_iff {op : Operator} {lowerToken upperToken : String} {column lower upper : Operand}
    {fragment : Selector} :
    op.compileRange lowerToken upperToken column lower upper = .ok fragment ↔
      ∃ name low high, column.Names name ∧ lower = .value low ∧ upper = .value high ∧
        fragment = .single name (.object [(lowerToken, low), (upperToken, high)]) := by
  simp only [compileRange, bind_eq_ok_iff, columnName_eq_ok_iff, valueOf_eq_ok_iff, pure, Except.pure,
    Except.ok.injEq]
  constructor
  · rintro ⟨name, named, low, lowest, high, highest, rfl⟩
    exact ⟨name, low, high, named, lowest, highest, rfl⟩
  · rintro ⟨name, low, high, named, lowest, highest, rfl⟩
    exact ⟨name, named, low, lowest, high, highest, rfl⟩

theorem compileMembership_eq_ok_iff {op : Operator} {column values : Operand} {fragment : Selector} :
    op.compileMembership column values = .ok fragment ↔
      ∃ name value, column.NamesMember name ∧ values = .value value ∧
        fragment = membership op name (membershipValues value) := by
  simp only [compileMembership, bind_eq_ok_iff, membershipColumn_eq_ok_iff, valueOf_eq_ok_iff, pure, Except.pure,
    Except.ok.injEq]
  constructor
  · rintro ⟨name, named, value, given, rfl⟩
    exact ⟨name, value, named, given, rfl⟩
  · rintro ⟨name, value, named, given, rfl⟩
    exact ⟨name, named, value, given, rfl⟩

theorem compilePattern_eq_ok_iff {accepts : String → Bool} {op : Operator} {column pattern : Operand}
    {fragment : Selector} :
    op.compilePattern accepts column pattern = .ok fragment ↔
      ∃ name text, column.Names name ∧ pattern = .text text ∧ accepts text = true ∧
        fragment = .single name (.object [("$regex", .string text)]) := by
  simp only [compilePattern, bind_eq_ok_iff, columnName_eq_ok_iff, valueOf_eq_ok_iff, patternText_eq_ok_iff]
  constructor
  · rintro ⟨name, named, value, given, text, rfl, checked⟩
    split at checked
    · next accepted => exact ⟨name, text, named, given, accepted, (Except.ok.inj checked).symm⟩
    · cases checked
  · rintro ⟨name, text, named, given, accepted, rfl⟩
    exact ⟨name, named, _, given, text, rfl, by rw [if_pos accepted]; rfl⟩

/-- The field that an operator with a fixed number of operands is about, and the relations that it asks for. -/
inductive Demands : Operator → List Operand → String → Fields → Prop
  | between {column : Operand} {name : String} {lower upper : Json} (named : column.Names name) :
    Demands .between [column, .value lower, .value upper] name [("$gte", lower), ("$lte", upper)]
  | notBetween {column : Operand} {name : String} {lower upper : Json} (named : column.Names name) :
    Demands .notBetween [column, .value lower, .value upper] name [("$lt", lower), ("$gt", upper)]
  | isIn {column : Operand} {name : String} {value : Json} (named : column.NamesMember name) :
    Demands .isIn [column, .value value] name [("$in", .array (membershipValues value))]
  | notIn {column : Operand} {name : String} {value : Json} (named : column.NamesMember name) :
    Demands .notIn [column, .value value] name [("$nin", .array (membershipValues value))]
  | regex {column : Operand} {name pattern : String} (named : column.Names name) :
    Demands .regex [column, .text pattern] name [("$regex", .string pattern)]
  | like {column : Operand} {name pattern : String} (named : column.Names name) :
    Demands .like [column, .text pattern] name [("$regex", .string pattern)]

theorem demands_of_compileFixed {accepts : String → Bool} {op : Operator} {operands : List Operand}
    {fragment : Selector} (compiled : op.compileFixed accepts operands = .ok fragment) :
    ∃ name relations, op.Demands operands name relations ∧ fragment = .single name (.object relations) := by
  unfold compileFixed at compiled
  split at compiled
  · obtain ⟨name, low, high, named, rfl, rfl, rfl⟩ := compileRange_eq_ok_iff.mp compiled
    exact ⟨name, _, .between named, rfl⟩
  · obtain ⟨name, low, high, named, rfl, rfl, rfl⟩ := compileRange_eq_ok_iff.mp compiled
    exact ⟨name, _, .notBetween named, rfl⟩
  · obtain ⟨name, value, named, rfl, rfl⟩ := compileMembership_eq_ok_iff.mp compiled
    exact ⟨name, _, .isIn named, rfl⟩
  · obtain ⟨name, value, named, rfl, rfl⟩ := compileMembership_eq_ok_iff.mp compiled
    exact ⟨name, _, .notIn named, rfl⟩
  · obtain ⟨name, pattern, named, rfl, _, rfl⟩ := compilePattern_eq_ok_iff.mp compiled
    exact ⟨name, _, .regex named, rfl⟩
  · obtain ⟨name, pattern, named, rfl, _, rfl⟩ := compilePattern_eq_ok_iff.mp compiled
    exact ⟨name, _, .like named, rfl⟩
  · cases compiled

theorem Demands.unique {op : Operator} {operands : List Operand} {name name' : String} {relations relations' : Fields}
    (demands : op.Demands operands name relations) (again : op.Demands operands name' relations') :
    name = name' ∧ relations = relations' := by
  cases demands <;> cases again <;> rename_i named again <;> exact ⟨named.unique again, rfl⟩

end Operator

def Operand.Means (motive : Condition → Selector → Prop) (operand : Operand) (fragment : Selector) : Prop :=
  ∃ condition, operand.toCondition = .ok condition ∧ motive condition fragment

/-- The cases of an induction over the conditions that are compiled. -/
structure CompiledCases (motive : Condition → Selector → Prop) : Prop where
  empty : motive .empty .empty
  hash (pairs : List (String × HashValue)) : motive (.hash pairs) (compileHash pairs)
  group {op : Operator} {operands : List Operand} {fragments : List Selector} (connective : op.arity = none)
    (operandwise : List.Forall₂ (Operand.Means motive) operands fragments) :
    motive (.operation op operands) (op.group fragments)
  fixed {op : Operator} {operands : List Operand} {name : String} {relations : Fields}
    (demands : op.Demands operands name relations) :
    motive (.operation op operands) (.single name (.object relations))
  raw {selector : RawSelector} {fields : Fields} (value : selector.value? = some (.object fields)) :
    motive (.raw selector) (.ofFields fields)

section

variable {accepts : String → Bool} {motive : Condition → Selector → Prop}

theorem CompiledCases.compiledRaw (steps : CompiledCases motive) {raw : RawSelector} {fragment : Selector}
    (compiled : raw.compile = .ok fragment) : motive (.raw raw) fragment := by
  obtain ⟨fields, value, rfl⟩ := RawSelector.compile_eq_ok_iff.mp compiled
  exact steps.raw value

theorem CompiledCases.operation (steps : CompiledCases motive) {op : Operator} {operands : List Operand}
    {fragments : Except Error (List Selector)} {fragment : Selector}
    (operandwise : ∀ {found}, fragments = .ok found → List.Forall₂ (Operand.Means motive) operands found)
    (compiled : (if op.arity.isNone then fragments.map op.group else op.compileFixed accepts operands) =
      .ok fragment) : motive (.operation op operands) fragment := by
  split at compiled
  · next connective =>
    cases fragments with
    | error error => cases compiled
    | ok found =>
      cases compiled
      exact steps.group (Option.isNone_iff_eq_none.mp connective) (operandwise rfl)
  · obtain ⟨name, relations, demands, rfl⟩ := Operator.demands_of_compileFixed compiled
    exact steps.fixed demands

mutual

theorem CompiledCases.json (steps : CompiledCases motive) : ∀ {value : Json} {fragment : Selector},
    compileJson accepts value = .ok fragment → (Operand.value value).Means motive fragment
  | .null, _, compiled => by
    cases compiled
    exact ⟨.empty, rfl, steps.empty⟩
  | .string source, _, compiled => ⟨.raw (.text source), rfl, steps.compiledRaw compiled⟩
  | .object [], _, compiled => by
    cases compiled
    exact ⟨.empty, rfl, steps.empty⟩
  | .object (field :: fields), _, compiled => by
    cases compiled
    exact ⟨.ofPairs (field :: fields), rfl, steps.hash _⟩
  | .array [], _, compiled => by
    cases compiled
    exact ⟨.empty, rfl, steps.empty⟩
  | .array (.string name :: operands), _, compiled => by
    rw [compileJson] at compiled
    cases named : Operator.ofName name with
    | error error => simp [named] at compiled
    | ok op =>
      simp only [named] at compiled
      refine ⟨.operation op (operands.map Operand.value), ?_, steps.operation ?_ compiled⟩
      · simp [Operand.toCondition, Condition.ofJson, named, Except.map]
      · intro found each
        exact List.forall₂_map_left_iff.mpr (steps.jsonList each)
  | .bool _, _, compiled | .number _, _, compiled => by cases compiled
  | .array (.null :: _), _, compiled | .array (.bool _ :: _), _, compiled
  | .array (.number _ :: _), _, compiled | .array (.array _ :: _), _, compiled
  | .array (.object _ :: _), _, compiled => by cases compiled

theorem CompiledCases.jsonList (steps : CompiledCases motive) :
    ∀ {values : List Json} {fragments : List Selector}, compileJsonList accepts values = .ok fragments →
      List.Forall₂ (fun value => (Operand.value value).Means motive) values fragments
  | [], _, compiled => by
    cases compiled
    exact .nil
  | value :: rest, _, compiled => by
    obtain ⟨first, one, compiled⟩ := bind_eq_ok_iff.mp compiled
    obtain ⟨others, more, compiled⟩ := bind_eq_ok_iff.mp compiled
    cases compiled
    exact .cons (steps.json one) (steps.jsonList more)

end

mutual

theorem CompiledCases.condition (steps : CompiledCases motive) :
    ∀ {condition : Condition} {fragment : Selector}, condition.compileWith accepts = .ok fragment →
      motive condition fragment
  | .empty, _, compiled => by
    cases compiled
    exact steps.empty
  | .hash pairs, _, compiled => by
    cases compiled
    exact steps.hash pairs
  | .operation op operands, _, compiled => by
    rw [Condition.compileWith] at compiled
    exact steps.operation steps.operands compiled
  | .raw selector, _, compiled => steps.compiledRaw compiled

theorem CompiledCases.operand (steps : CompiledCases motive) : ∀ {operand : Operand} {fragment : Selector},
    operand.compileWith accepts = .ok fragment → operand.Means motive fragment
  | .condition condition, _, compiled => ⟨condition, rfl, steps.condition compiled⟩
  | .value _, _, compiled => steps.json compiled

theorem CompiledCases.operands (steps : CompiledCases motive) :
    ∀ {operands : List Operand} {fragments : List Selector}, Operand.compileList accepts operands = .ok fragments →
      List.Forall₂ (Operand.Means motive) operands fragments
  | [], _, compiled => by
    cases compiled
    exact .nil
  | operand :: rest, _, compiled => by
    obtain ⟨first, one, compiled⟩ := bind_eq_ok_iff.mp compiled
    obtain ⟨others, more, compiled⟩ := bind_eq_ok_iff.mp compiled
    cases compiled
    exact .cons (steps.operand one) (steps.operands more)

end

end

end FindQuery
