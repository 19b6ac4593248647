import FindQuery.Proofs.Condition.Accepted

namespace FindQuery

def Operator.groupKey? : Operator → Option String
  | .and => some "$and"
  | .or => some "$or"
  | _ => none

theorem Operator.groupKey?_eq_some_iff {op : Operator} {key : String} :
    op.groupKey? = some key ↔ op.arity = none ∧ op.token = key := by
  cases op <;> simp [groupKey?, arity, token, Token.and, Token.or]

/-- What stands under a path of keys, each with a place in the list that is found there. -/
def Json.follow? (value : Json) : List (String × Nat) → Option Json
  | [] => some value
  | (key, index) :: path =>
    match value.get? key with
    | some (.array items) => items[index]?.bind fun item => item.follow? path
    | _ => none

/-- A path goes from a group to one of its operands, and on from there, to a condition. Operands are taken for the
conditions that they mean. -/
inductive Condition.Leads : Condition → List (String × Nat) → Condition → Prop
  | here (condition : Condition) : Leads condition [] condition
  | operand {op : Operator} {operands : List Operand} {operand : Operand} {key : String} {index : Nat}
    {inner target : Condition} {path : List (String × Nat)} (group : op.groupKey? = some key)
    (place : operands[index]? = some operand) (means : operand.toCondition = .ok inner)
    (rest : Leads inner path target) : Leads (.operation op operands) ((key, index) :: path) target

theorem Condition.Leads.append {condition middle target : Condition} {path rest : List (String × Nat)}
    (first : condition.Leads path middle) (second : middle.Leads rest target) :
    condition.Leads (path ++ rest) target := by
  induction first with
  | here _ => exact second
  | operand group place means _ ih => exact .operand group place means (ih second)

section

variable {accepts : String → Bool}

theorem Operand.compileWith_eq_ok_iff {operand : Operand} {fragment : Selector} :
    operand.compileWith accepts = .ok fragment ↔
      ∃ own, operand.toCondition = .ok own ∧ own.compileWith accepts = .ok fragment := by
  cases operand with
  | condition own => simp [compileWith, toCondition]
  | value written =>
    rw [compileWith, compileJson_eq_ofJson_bind]
    exact bind_eq_ok_iff

theorem Operand.compileList_eq_mapM (operands : List Operand) :
    Operand.compileList accepts operands = operands.mapM (Operand.compileWith accepts) := by
  induction operands with
  | nil => rfl
  | cons operand rest ih => rw [compileList, List.mapM_cons, ih]

theorem Condition.compileWith_group {op : Operator} {operands : List Operand} {key : String} {fragment : Selector}
    (group : op.groupKey? = some key) (compiled : (operation op operands).compileWith accepts = .ok fragment) :
    ∃ fragments, List.Forall₂ (fun operand part => operand.compileWith accepts = .ok part) operands fragments ∧
      fragment.toJson = .object [(key, .array (fragments.map Selector.toJson))] := by
  obtain ⟨variadic, rfl⟩ := Operator.groupKey?_eq_some_iff.mp group
  rw [compileWith, variadic, Option.isNone_none, if_pos rfl] at compiled
  cases each : Operand.compileList accepts operands with
  | error error =>
    rw [each] at compiled
    cases compiled
  | ok fragments =>
    rw [each] at compiled
    cases compiled
    rw [Operand.compileList_eq_mapM] at each
    exact ⟨fragments, mapM_eq_ok_iff.mp each, rfl⟩

theorem Condition.follow?_operand {op : Operator} {operands : List Operand} {operand : Operand} {key : String}
    {index : Nat} {inner : Condition} {fragment : Selector} (group : op.groupKey? = some key)
    (compiled : (operation op operands).compileWith accepts = .ok fragment)
    (place : operands[index]? = some operand) (means : operand.toCondition = .ok inner) :
    ∃ part, inner.compileWith accepts = .ok part ∧
      ∀ path, fragment.toJson.follow? ((key, index) :: path) = part.toJson.follow? path := by
  obtain ⟨fragments, each, form⟩ := compileWith_group group compiled
  obtain ⟨inside, rfl⟩ := List.getElem?_eq_some_iff.mp place
  have within : index < fragments.length := each.length_eq ▸ inside
  obtain ⟨own, same, part⟩ := Operand.compileWith_eq_ok_iff.mp (each.get inside within)
  rw [List.get_eq_getElem, means, Except.ok.injEq] at same
  subst same
  refine ⟨_, part, fun path => ?_⟩
  simp [form, Json.follow?, Json.get?, Fields.get?, List.getElem?_eq_getElem within]

theorem Condition.exists_items_of_group {op : Operator} {operands : List Operand} {key : String} {fragment : Selector}
    (group : op.groupKey? = some key) (compiled : (operation op operands).compileWith accepts = .ok fragment) :
    ∃ items, fragment.toJson = .object [(key, .array items)] ∧ items.length = operands.length ∧
      ∀ index < operands.length, ∃ inner, (operation op operands).Leads [(key, index)] inner := by
  obtain ⟨fragments, each, form⟩ := compileWith_group group compiled
  refine ⟨_, form, by rw [List.length_map, each.length_eq], fun index inside => ?_⟩
  have within : index < fragments.length := each.length_eq ▸ inside
  obtain ⟨inner, means, _⟩ := Operand.compileWith_eq_ok_iff.mp (each.get inside within)
  exact ⟨inner, .operand group (List.getElem?_eq_getElem inside) means (.here inner)⟩

theorem Condition.Leads.exists_follow? {condition target : Condition} {path : List (String × Nat)}
    {fragment : Selector} (leads : condition.Leads path target)
    (compiled : condition.compileWith accepts = .ok fragment) :
    ∃ part, target.compileWith accepts = .ok part ∧ fragment.toJson.follow? path = some part.toJson := by
  -- The path goes on in what the operand is compiled to, so the fragment changes with the condition.
  induction leads generalizing fragment with
  | here _ => exact ⟨fragment, compiled, rfl⟩
  | operand group place means _ ih =>
    obtain ⟨inner, innerCompiled, onward⟩ := Condition.follow?_operand group compiled place means
    obtain ⟨part, partCompiled, found⟩ := ih innerCompiled
    exact ⟨part, partCompiled, by rw [onward, found]⟩

/-- Whatever path of operands is gone through the groups of a condition, in what the condition is compiled to the same
path leads to what the condition at its end is compiled to. If that is a group again, its list has just one item for
each operand, and the path goes on to each of them. -/
theorem compiled_along_path {condition target : Condition} {path : List (String × Nat)} {fragment : Selector}
    (compiled : condition.compileWith accepts = .ok fragment) (leads : condition.Leads path target) :
    ∃ part, target.compileWith accepts = .ok part ∧ fragment.toJson.follow? path = some part.toJson ∧
      ∀ op operands key, target = .operation op operands → op.groupKey? = some key →
        ∃ items, part.toJson = .object [(key, .array items)] ∧ items.length = operands.length ∧
          ∀ index < operands.length, ∃ inner, condition.Leads (path ++ [(key, index)]) inner := by
  obtain ⟨part, partCompiled, found⟩ := leads.exists_follow? compiled
  refine ⟨part, partCompiled, found, ?_⟩
  rintro op operands key rfl group
  obtain ⟨items, form, length, onward⟩ := Condition.exists_items_of_group group partCompiled
  refine ⟨items, form, length, fun index inside => ?_⟩
  obtain ⟨inner, last⟩ := onward index inside
  exact ⟨inner, leads.append last⟩

end

def nestedCondition : Condition :=
  .and
    [.between "year" .null .null,
      .operation .or
        [.condition .empty,
          .value (.array [.string " and ", .null, .object [("seen", .bool true)], .object [("seen", .bool true)]])]]

def innerConjunction : Condition :=
  .operation .and [.value .null, .value (.object [("seen", .bool true)]), .value (.object [("seen", .bool true)])]

def nestedFragment : Selector :=
  .single "$and" (.array
    [.object [("year", .object [("$gte", .null), ("$lte", .null)])],
      .object
        [("$or", .array
          [.object [],
            .object
              [("$and", .array [.object [], .object [("seen", .bool true)], .object [("seen", .bool true)]])]])]])

theorem compiled_along_path_nested :
    ∃ part : Selector, innerConjunction.compileWith Pattern.accepts = .ok part ∧
      nestedFragment.toJson.follow? [("$and", 1), ("$or", 1)] = some part.toJson ∧
      ∀ op operands key, innerConjunction = .operation op operands → op.groupKey? = some key →
        ∃ items, part.toJson = .object [(key, .array items)] ∧ items.length = operands.length ∧
          ∀ index < operands.length, ∃ inner, nestedCondition.Leads [("$and", 1), ("$or", 1), (key, index)] inner := by
  have compiled : nestedCondition.compileWith Pattern.accepts = .ok nestedFragment := rfl
  have read : Condition.ofJson
      (.array [.string " and ", .null, .object [("seen", .bool true)], .object [("seen", .bool true)]]) =
        .ok innerConjunction := rfl
  have leads : nestedCondition.Leads [("$and", 1), ("$or", 1)] innerConjunction :=
    .operand rfl rfl rfl (.operand rfl rfl read (.here innerConjunction))
  exact compiled_along_path compiled leads

end FindQuery
