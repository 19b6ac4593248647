import FindQuery.Proofs.Condition.Checks

namespace FindQuery

inductive Node where
  | condition (own : Condition)
  | unread (value : Json)

mutual

def nodesOfJson : Json → List Node
  | .array (.string name :: operands) =>
    match Operator.ofName name with
    | .ok op =>
      .condition (.operation op (operands.map Operand.value)) ::
        if op.arity.isNone then nodesOfJsonList operands else []
    | .error _ => [.unread (.array (.string name :: operands))]
  | value =>
    match Condition.ofJson value with
    | .ok own => [.condition own]
    | .error _ => [.unread value]

def nodesOfJsonList : List Json → List Node
  | [] => []
  | value :: rest => nodesOfJson value ++ nodesOfJsonList rest

end

mutual

/-- The nodes of a condition from left to right, each before those below it. -/
def Condition.nodes : Condition → List Node
  | .operation op operands =>
    .condition (.operation op operands) :: if op.arity.isNone then Operand.nodesOfList operands else []
  | own => [.condition own]

def Operand.nodes : Operand → List Node
  | .condition own => own.nodes
  | .value value => nodesOfJson value

def Operand.nodesOfList : List Operand → List Node
  | [] => []
  | operand :: rest => operand.nodes ++ Operand.nodesOfList rest

end

theorem Operand.nodesOfList_map_value (values : List Json) :
    Operand.nodesOfList (values.map Operand.value) = nodesOfJsonList values := by
  induction values with
  | nil => rfl
  | cons value rest ih => simp only [List.map_cons, nodesOfList, nodes, nodesOfJsonList, ih]

theorem nodesOfJson_eq (value : Json) :
    nodesOfJson value =
      match Condition.ofJson value with
      | .ok own => own.nodes
      | .error _ => [.unread value] := by
  match value with
  | .null | .bool _ | .number _ | .string _ | .object [] | .object (_ :: _) | .array [] => rfl
  | .array (.null :: _) | .array (.bool _ :: _) | .array (.number _ :: _) | .array (.array _ :: _) => rfl
  | .array (.object _ :: _) => rfl
  | .array (.string name :: operands) =>
    simp only [nodesOfJson, Condition.ofJson]
    cases Operator.ofName name with
    | error error => rfl
    | ok op => simp only [Except.map, Condition.nodes, Operand.nodesOfList_map_value]

section

variable (accepts : String → Bool)

def Node.Correct : Node → Prop
  | .condition .empty | .condition (.hash _) => True
  | .condition (.operation op operands) => op.Takes accepts operands
  | .condition (.raw selector) => ∃ fields, selector.value? = some (.object fields)
  | .unread _ => False

inductive Node.Fault : Node → Error → Prop
  | operation {op : Operator} {operands : List Operand} {error : Error} (fault : op.Fault accepts operands error) :
    Node.Fault (.condition (.operation op operands)) error
  | rawNotJson {source : String} (unread : Json.parse? source = none) :
    Node.Fault (.condition (.raw (.text source))) (.malformedCondition (.rawNotJson source))
  | rawNotObject {selector : RawSelector} {value : Json} (read : selector.value? = some value)
    (other : ∀ fields, value ≠ .object fields) :
    Node.Fault (.condition (.raw selector)) (.malformedCondition (.rawNotObject value))
  | unread {value : Json} {error : Error} (refused : Condition.ofJson value = .error error) :
    Node.Fault (.unread value) error

/-- What is wrong with the first node that is not correct. -/
inductive FirstFault : List Node → Error → Prop
  | here {node : Node} {rest : List Node} {error : Error} (fault : node.Fault accepts error) :
    FirstFault (node :: rest) error
  | later {node : Node} {rest : List Node} {error : Error} (correct : node.Correct accepts)
    (fault : FirstFault rest error) : FirstFault (node :: rest) error

structure Judged {α : Type} (nodes : List Node) (outcome : Except Error α) : Prop where
  accepted : (∃ value, outcome = .ok value) ↔ ∀ node ∈ nodes, node.Correct accepts
  refused (error : Error) : outcome = .error error ↔ FirstFault accepts nodes error

end

variable {accepts : String → Bool}

theorem firstFault_cons_iff {node : Node} {rest : List Node} {error : Error} :
    FirstFault accepts (node :: rest) error ↔
      node.Fault accepts error ∨ node.Correct accepts ∧ FirstFault accepts rest error := by
  constructor
  · intro first
    cases first with
    | here fault => exact .inl fault
    | later correct fault => exact .inr ⟨correct, fault⟩
  · rintro (fault | ⟨correct, fault⟩)
    · exact .here fault
    · exact .later correct fault

theorem not_firstFault_nil {error : Error} : ¬ FirstFault accepts [] error := by
  intro fault
  cases fault

theorem firstFault_append_iff {nodes others : List Node} {error : Error} :
    FirstFault accepts (nodes ++ others) error ↔
      FirstFault accepts nodes error ∨ (∀ node ∈ nodes, node.Correct accepts) ∧ FirstFault accepts others error := by
  induction nodes with
  | nil => simp [not_firstFault_nil]
  | cons node rest ih =>
    rw [List.cons_append, firstFault_cons_iff, firstFault_cons_iff, ih, List.forall_mem_cons]
    tauto

namespace Judged

variable {α β : Type} {nodes others : List Node} {outcome : Except Error α}

theorem nil {value : α} : Judged accepts [] (.ok value) where
  accepted := by simp
  refused error := by simp [not_firstFault_nil]

theorem single {node : Node} (accepted : (∃ value, outcome = .ok value) ↔ node.Correct accepts)
    (refused : ∀ error, outcome = .error error ↔ node.Fault accepts error) : Judged accepts [node] outcome where
  accepted := by rw [accepted, List.forall_mem_singleton]
  refused error := by simp [refused, firstFault_cons_iff, not_firstFault_nil]

theorem cons {node : Node} (correct : node.Correct accepts) (faultless : ∀ error, ¬ node.Fault accepts error)
    (judged : Judged accepts nodes outcome) : Judged accepts (node :: nodes) outcome where
  accepted := by rw [judged.accepted, List.forall_mem_cons, and_iff_right correct]
  refused error := by simp [judged.refused, firstFault_cons_iff, correct, faultless error]

theorem bind {next : α → Except Error β} (first : Judged accepts nodes outcome)
    (second : ∀ value, Judged accepts others (next value)) : Judged accepts (nodes ++ others) (outcome >>= next) where
  accepted := by
    rw [List.forall_mem_append, ← first.accepted]
    constructor
    · rintro ⟨result, whole⟩
      obtain ⟨value, one, two⟩ := bind_eq_ok_iff.mp whole
      exact ⟨⟨value, one⟩, (second value).accepted.mp ⟨result, two⟩⟩
    · rintro ⟨⟨value, one⟩, correct⟩
      obtain ⟨result, two⟩ := (second value).accepted.mpr correct
      exact ⟨result, bind_eq_ok_iff.mpr ⟨value, one, two⟩⟩
  refused error := by
    rw [bind_eq_error_iff, firstFault_append_iff, first.refused, ← first.accepted]
    refine or_congr_right ?_
    constructor
    · rintro ⟨value, one, two⟩
      exact ⟨⟨value, one⟩, ((second value).refused error).mp two⟩
    · rintro ⟨⟨value, one⟩, fault⟩
      exact ⟨value, one, ((second value).refused error).mpr fault⟩

theorem map {change : α → β} (judged : Judged accepts nodes outcome) : Judged accepts nodes (outcome.map change) where
  accepted := by
    rw [← judged.accepted]
    cases outcome <;> simp [Except.map]
  refused error := by rw [map_eq_error_iff, judged.refused]

end Judged

theorem RawSelector.compile_eq_error_iff {raw : RawSelector} {error : Error} :
    raw.compile = .error error ↔
      (∃ source, raw = .text source ∧ Json.parse? source = none ∧
          error = .malformedCondition (.rawNotJson source)) ∨
        ∃ value, raw.value? = some value ∧ (∀ fields, value ≠ .object fields) ∧
          error = .malformedCondition (.rawNotObject value) := by
  cases raw with
  | structured value => cases value <;> simp [compile, value?, malformed, eq_comm]
  | text source =>
    simp only [compile, value?]
    cases unread : Json.parse? source with
    | none => simp [unread, malformed, eq_comm]
    | some value => cases value <;> simp [unread, malformed, eq_comm]

theorem judged_hash (pairs : List (String × HashValue)) (fragment : Selector) :
    Judged accepts [.condition (.hash pairs)] (.ok fragment) :=
  .cons trivial (fun _ fault => by cases fault) .nil

theorem judged_empty (fragment : Selector) : Judged accepts [.condition .empty] (.ok fragment) :=
  .cons trivial (fun _ fault => by cases fault) .nil

theorem judged_raw (selector : RawSelector) : Judged accepts [.condition (.raw selector)] selector.compile := by
  refine .single ?_ fun error => ?_
  · simp only [Node.Correct, RawSelector.compile_eq_ok_iff]
    exact ⟨fun ⟨_, fields, read, _⟩ => ⟨fields, read⟩, fun ⟨fields, read⟩ => ⟨_, fields, read, rfl⟩⟩
  · rw [RawSelector.compile_eq_error_iff]
    constructor
    · rintro (⟨source, rfl, unread, rfl⟩ | ⟨value, read, other, rfl⟩)
      · exact .rawNotJson unread
      · exact .rawNotObject read other
    · intro fault
      cases fault with
      | rawNotJson unread => exact .inl ⟨_, rfl, unread, rfl⟩
      | rawNotObject read other => exact .inr ⟨_, read, other, rfl⟩

theorem judged_unread {value : Json} {error : Error} (refused : Condition.ofJson value = .error error) :
    Judged accepts [.unread value] (.error error : Except Error Selector) := by
  refine .single (by simp [Node.Correct]) fun other => ?_
  constructor
  · intro same
    cases same
    exact .unread refused
  · intro fault
    cases fault with
    | unread again =>
      rw [refused, Except.error.injEq] at again
      rw [again]

theorem judged_operation {op : Operator} {operands : List Operand} {inner : List Node}
    {fragments : Except Error (List Selector)} (operandwise : Judged accepts inner fragments) :
    Judged accepts (.condition (.operation op operands) :: if op.arity.isNone then inner else [])
      (if op.arity.isNone then fragments.map op.group else op.compileFixed accepts operands) := by
  by_cases connective : op.arity = none
  · -- A connective is correct by itself, whatever its operands are.
    simp only [connective, Option.isNone_none, if_true]
    refine .cons (.connective connective) (fun error fault => ?_) operandwise.map
    cases fault with
    | operation fault => exact op.not_fault_of_connective connective fault
  · rw [if_neg (by simpa using connective), if_neg (by simpa using connective)]
    refine .single (op.exists_compileFixed_iff connective) fun error => ?_
    rw [op.compileFixed_eq_error_iff connective]
    exact ⟨.operation, fun fault => by cases fault; assumption⟩

mutual

theorem judged_json : ∀ value : Json, Judged accepts (nodesOfJson value) (compileJson accepts value)
  | .null | .array [] => judged_empty _
  | .object [] => judged_empty _
  | .object (_ :: _) => judged_hash _ _
  | .string source => judged_raw (.text source)
  | .array (.string name :: operands) => by
    rw [nodesOfJson, compileJson]
    cases named : Operator.ofName name with
    | error error =>
      refine judged_unread ?_
      rw [Condition.ofJson, named]
      rfl
    | ok op => exact judged_operation (judged_jsonList operands)
  | .bool _ | .number _ => judged_unread rfl
  | .array (.null :: _) | .array (.bool _ :: _) | .array (.number _ :: _) => judged_unread rfl
  | .array (.array _ :: _) | .array (.object _ :: _) => judged_unread rfl

theorem judged_jsonList : ∀ values : List Json,
    Judged accepts (nodesOfJsonList values) (compileJsonList accepts values)
  | [] => .nil
  | value :: rest => (judged_json value).bind fun _ => (judged_jsonList rest).map

end

mutual

theorem Condition.judged : ∀ condition : Condition, Judged accepts condition.nodes (condition.compileWith accepts)
  | .empty => judged_empty _
  | .hash pairs => judged_hash pairs _
  | .operation _ operands => by
    rw [Condition.nodes, Condition.compileWith]
    exact judged_operation (Operand.judgedList operands)
  | .raw selector => judged_raw selector

theorem Operand.judged : ∀ operand : Operand, Judged accepts operand.nodes (operand.compileWith accepts)
  | .condition condition => condition.judged
  | .value value => judged_json value

theorem Operand.judgedList : ∀ operands : List Operand,
    Judged accepts (Operand.nodesOfList operands) (Operand.compileList accepts operands)
  | [] => .nil
  | operand :: rest => operand.judged.bind fun _ => (Operand.judgedList rest).map

end

theorem FirstFault.exists_node {nodes : List Node} {error : Error} (first : FirstFault accepts nodes error) :
    ∃ node ∈ nodes, node.Fault accepts error := by
  induction first with
  | here fault => exact ⟨_, List.mem_cons_self, fault⟩
  | later _ _ ih =>
    obtain ⟨node, member, fault⟩ := ih
    exact ⟨node, List.mem_cons_of_mem _ member, fault⟩

theorem Condition.malformed_of_ofJson {value : Json} {error : Error} (refused : Condition.ofJson value = .error error) :
    ∃ cause, error = .malformedCondition cause := by
  unfold ofJson at refused
  split at refused
  case h_6 name _ =>
    rw [map_eq_error_iff] at refused
    unfold Operator.ofName at refused
    split at refused
    · cases refused
    · exact ⟨_, (Except.error.inj refused).symm⟩
  case h_7 | h_8 => exact ⟨_, (Except.error.inj refused).symm⟩
  all_goals cases refused

namespace Node

theorem Fault.isCompileError {node : Node} {error : Error} (fault : node.Fault accepts error) :
    error.isCompileError = true := by
  cases fault with
  | operation fault =>
    cases fault with
    | column _ fault => cases fault <;> rfl
    | _ => rfl
  | unread refused =>
    obtain ⟨cause, rfl⟩ := Condition.malformed_of_ofJson refused
    rfl
  | _ => rfl

theorem Fault.of_composite {node : Node} {op : Operator} {columns : List Json}
    (fault : node.Fault accepts (.unsupportedCompositeKey op columns)) :
    op.IsMembership ∧ 2 ≤ columns.length ∧
      ∃ rest, node = .condition (.operation op (.value (.array columns) :: rest)) := by
  cases fault with
  | operation fault =>
    cases fault with
    | column _ fault =>
      cases fault with
      | composite membership several => exact ⟨membership, several, _, rfl⟩
  | unread refused =>
    obtain ⟨cause, same⟩ := Condition.malformed_of_ofJson refused
    cases same

theorem Fault.of_pattern {node : Node} {pattern : String} (fault : node.Fault accepts (.invalidPattern pattern)) :
    accepts pattern = false ∧
      ∃ op column, Operator.IsPattern op ∧ node = .condition (.operation op [column, .text pattern]) := by
  cases fault with
  | operation fault =>
    cases fault with
    | column _ fault => cases fault
    | patternRefused isPattern _ refused => exact ⟨refused, _, _, isPattern, rfl⟩
  | unread refused =>
    obtain ⟨cause, same⟩ := Condition.malformed_of_ofJson refused
    cases same

end Node

/-- A condition is compiled exactly if each of its nodes is correct, where a value operand has the nodes of the
condition that it is shorthand for. Otherwise the error is that of the first node that is not correct. Only a list of
two columns or more is a composite key, and only a pattern that is not accepted is invalid. -/
theorem compileWith_outcome (accepts : String → Bool) (condition : Condition) :
    ((∃ fragment, condition.compileWith accepts = .ok fragment) ↔
      ∀ node ∈ condition.nodes, node.Correct accepts) ∧
    (∀ error, condition.compileWith accepts = .error error ↔ FirstFault accepts condition.nodes error) ∧
    (∀ value, (Operand.value value).nodes =
      match Condition.ofJson value with
      | .ok own => own.nodes
      | .error _ => [.unread value]) ∧
    (∀ error, condition.compileWith accepts = .error error → error.isCompileError = true) ∧
    (∀ op columns, condition.compileWith accepts = .error (.unsupportedCompositeKey op columns) →
      op.IsMembership ∧ 2 ≤ columns.length ∧
        ∃ rest, .condition (.operation op (.value (.array columns) :: rest)) ∈ condition.nodes) ∧
    (∀ pattern, condition.compileWith accepts = .error (.invalidPattern pattern) →
      accepts pattern = false ∧
        ∃ op column, Operator.IsPattern op ∧
          .condition (.operation op [column, .text pattern]) ∈ condition.nodes) := by
  have judged : Judged accepts condition.nodes (condition.compileWith accepts) := condition.judged
  have faulty {error : Error} (failed : condition.compileWith accepts = .error error) :
      ∃ node ∈ condition.nodes, node.Fault accepts error := ((judged.refused error).mp failed).exists_node
  refine ⟨judged.accepted, judged.refused, nodesOfJson_eq, ?_, ?_, ?_⟩
  · intro error failed
    obtain ⟨node, _, fault⟩ := faulty failed
    exact fault.isCompileError
  · intro op columns failed
    obtain ⟨node, member, fault⟩ := faulty failed
    obtain ⟨membership, several, rest, rfl⟩ := fault.of_composite
    exact ⟨membership, several, rest, member⟩
  · intro pattern failed
    obtain ⟨node, member, fault⟩ := faulty failed
    obtain ⟨refused, op, column, isPattern, rfl⟩ := fault.of_pattern
    exact ⟨refused, op, column, isPattern, member⟩

example : (Condition.or [.between "" .null .null, .regex "title" "("]).compile =
    .error (.malformedCondition (.columnNotNamed .between (.text ""))) := rfl

end FindQuery
