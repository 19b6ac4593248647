import FindQuery.Proofs.Condition.Accepted
import FindQuery.Proofs.Json.WellFormed

namespace FindQuery

def RawSelector.WellFormed : RawSelector → Prop
  | .text _ => True
  | .structured value => value.WellFormed

def HashValue.WellFormed : HashValue → Prop
  | .literal value | .native value => value.WellFormed
  | .list values => Json.WellFormedItems values

mutual

def Condition.WellFormed : Condition → Prop
  | .empty => True
  | .hash pairs => ∀ pair ∈ pairs, pair.2.WellFormed
  | .operation _ operands => Operand.WellFormedList operands
  | .raw selector => selector.WellFormed

def Operand.WellFormed : Operand → Prop
  | .condition condition => condition.WellFormed
  | .value value => value.WellFormed

def Operand.WellFormedList : List Operand → Prop
  | [] => True
  | operand :: rest => operand.WellFormed ∧ Operand.WellFormedList rest

end

theorem Operand.wellFormedList_map_value {values : List Json} :
    Operand.WellFormedList (values.map Operand.value) ↔ Json.WellFormedItems values := by
  induction values with
  | nil => rfl
  | cons value rest ih => exact and_congr_right fun _ => ih

theorem RawSelector.wellFormed_of_value? {raw : RawSelector} {value : Json} (formed : raw.WellFormed)
    (read : raw.value? = some value) : value.WellFormed := by
  cases raw with
  | text source => exact Json.wellFormed_of_parse? read
  | structured own =>
    cases read
    exact formed

theorem HashValue.wellFormed_classify {key : String} {value : Json} (formed : value.WellFormed) :
    (HashValue.classify key value).WellFormed := by
  unfold classify
  split
  · exact formed
  · split <;> exact formed

theorem HashValue.wellFormed_compile {value : HashValue} (formed : value.WellFormed) :
    value.compile.WellFormed := by
  cases value with
  | literal value => exact formed
  | native value => exact formed
  | list values => exact ⟨by simp [Fields.keys], formed, trivial⟩

theorem wellFormed_compileHash {pairs : List (String × HashValue)} (formed : ∀ pair ∈ pairs, pair.2.WellFormed) :
    (compileHash pairs).toJson.WellFormed := by
  refine Json.wellFormed_ofList (Json.wellFormedFields_iff.mpr fun field member => ?_)
  obtain ⟨pair, inside, rfl⟩ := List.mem_map.mp member
  exact HashValue.wellFormed_compile (formed pair inside)

theorem Condition.wellFormed_of_ofJson {value : Json} {condition : Condition} (formed : value.WellFormed)
    (read : Condition.ofJson value = .ok condition) : condition.WellFormed := by
  unfold ofJson at read
  split at read
  · cases read; trivial
  · cases read; trivial
  · cases read; trivial
  · next fields _ =>
    cases read
    intro pair member
    obtain ⟨field, inside, rfl⟩ := List.mem_map.mp member
    exact HashValue.wellFormed_classify (Json.wellFormedFields_iff.mp formed.2 field inside)
  · cases read; trivial
  · next name operands =>
    cases named : Operator.ofName name <;> simp only [named, Except.map, reduceCtorEq, Except.ok.injEq] at read
    subst read
    exact Operand.wellFormedList_map_value.mpr formed.2
  · cases read
  · cases read

theorem Operand.wellFormed_of_toCondition {operand : Operand} {condition : Condition} (formed : operand.WellFormed)
    (means : operand.toCondition = .ok condition) : condition.WellFormed := by
  cases operand with
  | condition own =>
    cases means
    exact formed
  | value value => exact Condition.wellFormed_of_ofJson formed means

theorem wellFormed_single {key : String} {value : Json} (formed : value.WellFormed) :
    (Selector.single key value).toJson.WellFormed :=
  ⟨(Selector.single key value).nodup_keys, formed, trivial⟩

theorem wellFormedItems_membershipValues {value : Json} (formed : value.WellFormed) :
    Json.WellFormedItems (Operator.membershipValues value) := by
  unfold Operator.membershipValues
  split
  · exact formed
  · exact ⟨formed, trivial⟩

theorem Operator.Demands.wellFormed {op : Operator} {operands : List Operand} {name : String} {relations : Fields}
    (demands : op.Demands operands name relations) (formed : Operand.WellFormedList operands) :
    (Json.object relations).WellFormed := by
  cases demands with
  | between named | notBetween named =>
    obtain ⟨_, lowerFormed, upperFormed, _⟩ := formed
    exact ⟨by simp [Fields.keys], lowerFormed, upperFormed, trivial⟩
  | isIn named | notIn named =>
    exact ⟨by simp [Fields.keys], wellFormedItems_membershipValues formed.2.1, trivial⟩
  | regex named | like named => exact ⟨by simp [Fields.keys], trivial, trivial⟩

theorem wellFormed_group {op : Operator} {operands : List Operand} {fragments : List Selector}
    (formed : Operand.WellFormedList operands)
    (operandwise : List.Forall₂
      (Operand.Means fun condition fragment => condition.WellFormed → fragment.toJson.WellFormed) operands fragments) :
    (op.group fragments).toJson.WellFormed := by
  have each : Json.WellFormedItems (fragments.map Selector.toJson) := by
    induction operandwise with
    | nil => trivial
    | cons means _ ih =>
      obtain ⟨condition, read, preserved⟩ := means
      exact ⟨preserved (Operand.wellFormed_of_toCondition formed.1 read), ih formed.2⟩
  exact wellFormed_single each

theorem Condition.wellFormed_of_compileWith {accepts : String → Bool} {condition : Condition} {fragment : Selector}
    (formed : condition.WellFormed) (compiled : condition.compileWith accepts = .ok fragment) :
    fragment.toJson.WellFormed := by
  have steps : CompiledCases fun condition fragment =>
      condition.WellFormed → fragment.toJson.WellFormed :=
    { empty := fun _ => ⟨by simp [Fields.keys, Selector.empty], trivial⟩
      hash := fun _ => wellFormed_compileHash
      group := fun _ operandwise formed => wellFormed_group formed operandwise
      fixed := fun demands formed => wellFormed_single (demands.wellFormed formed)
      raw := fun read formed => Json.wellFormed_ofList (RawSelector.wellFormed_of_value? formed read).2 }
  exact steps.condition compiled formed

end FindQuery
