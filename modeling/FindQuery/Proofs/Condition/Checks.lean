import FindQuery.Proofs.Condition.Accepted

namespace FindQuery

namespace Operator

def IsMembership (op : Operator) : Prop := op = .isIn ∨ op = .notIn

def IsPattern (op : Operator) : Prop := op = .regex ∨ op = .like

def NamesColumn (op : Operator) (operand : Operand) (name : String) : Prop :=
  operand.Names name ∨ op.IsMembership ∧ operand.NamesMember name

inductive ColumnFault (op : Operator) : Operand → Error → Prop
  | unnamed {operand : Operand} (nameless : ∀ name, ¬ operand.Names name)
    (single : op.IsMembership → ∀ columns, operand ≠ .value (.array columns)) :
    ColumnFault op operand (.malformedCondition (.columnNotNamed op operand))
  | unnamedItem {column : Json} (membership : op.IsMembership)
    (nameless : ∀ name, ¬ (Operand.value column).Names name) :
    ColumnFault op (.value (.array [column])) (.malformedCondition (.columnNotNamed op (.value column)))
  | noColumns (membership : op.IsMembership) :
    ColumnFault op (.value (.array [])) (.malformedCondition (.noColumns op))
  | composite {columns : List Json} (membership : op.IsMembership) (several : 2 ≤ columns.length) :
    ColumnFault op (.value (.array columns)) (.unsupportedCompositeKey op columns)

/-- What an operator asks of its operands: their number, a column, values for all others, and patterns that are
accepted. A connective takes any operands; they are nodes of their own. -/
inductive Takes (accepts : String → Bool) (op : Operator) : List Operand → Prop
  | connective {operands : List Operand} (variadic : op.arity = none) : Takes accepts op operands
  | fixed {column : Operand} {name : String} {values : List Json} (counted : op.arity = some (values.length + 1))
    (named : op.NamesColumn column name)
    (patterns : op.IsPattern → ∀ value ∈ values, ∃ text, value = .string text ∧ accepts text = true) :
    Takes accepts op (column :: values.map Operand.value)

/-- What is wrong with the operands of an operator. Each check comes after those before it. -/
inductive Fault (accepts : String → Bool) (op : Operator) : List Operand → Error → Prop
  | count {operands : List Operand} {expected : Nat} (arity : op.arity = some expected)
    (wrong : operands.length ≠ expected) :
    Fault accepts op operands (.malformedCondition (.operandCount op expected operands.length))
  | column {column : Operand} {rest : List Operand} {error : Error} (counted : op.arity = some (rest.length + 1))
    (fault : op.ColumnFault column error) : Fault accepts op (column :: rest) error
  | nested {column : Operand} {rest : List Operand} {name : String} {condition : Condition}
    (counted : op.arity = some (rest.length + 1)) (named : op.NamesColumn column name)
    (member : .condition condition ∈ rest) :
    Fault accepts op (column :: rest) (.malformedCondition (.nestedCondition op))
  | patternNotText {column : Operand} {name : String} {value : Json} (pattern : op.IsPattern)
    (named : op.NamesColumn column name) (other : ∀ text, value ≠ .string text) :
    Fault accepts op [column, .value value] (.malformedCondition (.patternNotText op value))
  | patternRefused {column : Operand} {name text : String} (pattern : op.IsPattern)
    (named : op.NamesColumn column name) (refused : accepts text = false) :
    Fault accepts op [column, .text text] (.invalidPattern text)

def column (op : Operator) (operand : Operand) : Except Error String :=
  match op with
  | .isIn | .notIn => op.membershipColumn operand
  | _ => op.columnName operand

def checkPattern (accepts : String → Bool) (op : Operator) (values : List Json) : Except Error Unit :=
  match op, values with
  | .regex, [value] | .like, [value] => do
    let pattern ← op.patternText value
    if accepts pattern then return () else throw (.invalidPattern pattern)
  | _, _ => return ()

def check (accepts : String → Bool) (op : Operator) (first : Operand) (rest : List Operand) : Except Error Unit := do
  let _ ← op.column first
  let values ← rest.mapM op.valueOf
  op.checkPattern accepts values

theorem compileFixed_of_count {accepts : String → Bool} {op : Operator} {operands : List Operand} {expected : Nat}
    (arity : op.arity = some expected) (wrong : operands.length ≠ expected) :
    op.compileFixed accepts operands = .error (.malformedCondition (.operandCount op expected operands.length)) := by
  unfold compileFixed
  split
  case h_7 => rw [arity]; rfl
  all_goals
    cases arity
    exact absurd rfl wrong

theorem map_compileFixed {accepts : String → Bool} {op : Operator} {first : Operand} {rest : List Operand}
    (counted : op.arity = some (rest.length + 1)) :
    (op.compileFixed accepts (first :: rest)).map (fun _ => ()) = op.check accepts first rest := by
  -- The count leaves one shape of operands to each operator, and then the checks run one by one.
  cases op <;> simp only [arity, reduceCtorEq, Option.some.injEq] at counted
  case between | notBetween =>
    obtain ⟨lower, upper, rfl⟩ := List.length_eq_two.mp (Nat.succ.inj counted).symm
    simp only [compileFixed, compileRange, check, column]
    cases columnName _ first with
    | error error => rfl
    | ok name => cases lower <;> cases upper <;> rfl
  case isIn | notIn =>
    obtain ⟨values, rfl⟩ := List.length_eq_one_iff.mp (Nat.succ.inj counted).symm
    simp only [compileFixed, compileMembership, check, column]
    cases membershipColumn _ first with
    | error error => rfl
    | ok name => cases values <;> rfl
  case regex | like =>
    obtain ⟨pattern, rfl⟩ := List.length_eq_one_iff.mp (Nat.succ.inj counted).symm
    simp only [compileFixed, compilePattern, check, column]
    cases columnName _ first with
    | error error => rfl
    | ok name =>
      cases pattern with
      | condition nested => rfl
      | value value =>
        cases value with
        | string text =>
          change Except.map _ (if accepts text = true then Except.ok _ else Except.error (Error.invalidPattern text)) =
            if accepts text = true then Except.ok () else Except.error (Error.invalidPattern text)
          split <;> rfl
        | _ => rfl

theorem columnName_eq_error_iff {op : Operator} {operand : Operand} {error : Error} :
    op.columnName operand = .error error ↔
      (∀ name, ¬ operand.Names name) ∧ error = .malformedCondition (.columnNotNamed op operand) := by
  constructor
  · intro refused
    constructor
    · intro name named
      rw [columnName_eq_ok_iff.mpr named] at refused
      cases refused
    · unfold columnName at refused
      split at refused
      · split at refused
        · exact (Except.error.inj refused).symm
        · cases refused
      · exact (Except.error.inj refused).symm
  · rintro ⟨nameless, rfl⟩
    unfold columnName
    split
    · next name =>
      have empty : name.isEmpty = true := by
        by_contra nonempty
        exact nameless name ⟨rfl, by simpa using nonempty⟩
      rw [if_pos empty]
      rfl
    · rfl

theorem membershipColumn_eq_error_iff {op : Operator} {operand : Operand} {error : Error}
    (membership : op.IsMembership) :
    op.membershipColumn operand = .error error ↔ op.ColumnFault operand error := by
  constructor
  · intro refused
    unfold membershipColumn at refused
    split at refused
    · cases refused
      exact .noColumns membership
    · next column =>
      obtain ⟨nameless, rfl⟩ := columnName_eq_error_iff.mp refused
      exact .unnamedItem membership nameless
    · next columns none single =>
      cases refused
      refine .composite membership ?_
      match columns, none, single with
      | [], none, _ => exact absurd rfl none
      | [column], _, single => exact absurd rfl (single column)
      | _ :: _ :: _, _, _ => simp
    · next none single list =>
      obtain ⟨nameless, rfl⟩ := columnName_eq_error_iff.mp refused
      exact .unnamed nameless fun _ => list
  · intro fault
    cases fault with
    | noColumns _ => rfl
    | unnamedItem _ nameless => exact columnName_eq_error_iff.mpr ⟨nameless, rfl⟩
    | @composite columns _ several =>
      match columns, several with
      | _ :: _ :: _, _ => rfl
    | unnamed nameless single =>
      have other := single membership
      unfold membershipColumn
      split
      · exact absurd rfl (other _)
      · exact absurd rfl (other _)
      · exact absurd rfl (other _)
      · exact columnName_eq_error_iff.mpr ⟨nameless, rfl⟩

theorem column_eq_error_iff {op : Operator} {operand : Operand} {error : Error} :
    op.column operand = .error error ↔ op.ColumnFault operand error := by
  unfold column
  split
  · exact membershipColumn_eq_error_iff (.inl rfl)
  · exact membershipColumn_eq_error_iff (.inr rfl)
  · next notIn notNotIn =>
    have plain : ¬ op.IsMembership := not_or.mpr ⟨notIn, notNotIn⟩
    rw [columnName_eq_error_iff]
    constructor
    · rintro ⟨nameless, rfl⟩
      exact .unnamed nameless fun membership => absurd membership plain
    · intro fault
      cases fault with
      | unnamed nameless _ => exact ⟨nameless, rfl⟩
      | noColumns membership | unnamedItem membership _ | composite membership _ => exact absurd membership plain

theorem column_eq_ok_iff {op : Operator} {operand : Operand} {name : String} :
    op.column operand = .ok name ↔ op.NamesColumn operand name := by
  unfold column NamesColumn
  split
  · rw [membershipColumn_eq_ok_iff]
    simp [IsMembership, Operand.NamesMember]
  · rw [membershipColumn_eq_ok_iff]
    simp [IsMembership, Operand.NamesMember]
  · next notIn notNotIn =>
    have plain : ¬ op.IsMembership := not_or.mpr ⟨notIn, notNotIn⟩
    rw [columnName_eq_ok_iff]
    simp [plain]

theorem mapM_valueOf_eq_ok_iff {op : Operator} {operands : List Operand} {values : List Json} :
    operands.mapM op.valueOf = .ok values ↔ operands = values.map Operand.value := by
  simp only [mapM_eq_ok_iff, valueOf_eq_ok_iff]
  rw [← List.forall₂_eq_eq_eq, List.forall₂_map_right_iff]

theorem mapM_valueOf_eq_error_iff {op : Operator} {operands : List Operand} {error : Error} :
    operands.mapM op.valueOf = .error error ↔
      (∃ condition, .condition condition ∈ operands) ∧ error = .malformedCondition (.nestedCondition op) := by
  induction operands with
  | nil => simp [pure, Except.pure]
  | cons operand rest ih =>
    cases operand with
    | condition condition =>
      have refused : List.mapM op.valueOf (.condition condition :: rest) =
          .error (.malformedCondition (.nestedCondition op)) := by
        rw [List.mapM_cons]
        rfl
      rw [refused, Except.error.injEq, eq_comm]
      exact (and_iff_right ⟨condition, List.mem_cons_self⟩).symm
    | value value =>
      have later : List.mapM op.valueOf (.value value :: rest) = .error error ↔
          List.mapM op.valueOf rest = .error error := by
        rw [List.mapM_cons, valueOf]
        cases List.mapM op.valueOf rest <;> simp [bind, Except.bind, pure, Except.pure]
      rw [later, ih]
      simp

theorem patternText_eq_error_iff {op : Operator} {value : Json} {error : Error} :
    op.patternText value = .error error ↔
      (∀ text, value ≠ .string text) ∧ error = .malformedCondition (.patternNotText op value) := by
  cases value <;> simp [patternText, malformed, eq_comm]

theorem checkPattern_of_isPattern {accepts : String → Bool} {op : Operator} (pattern : op.IsPattern) (value : Json) :
    op.checkPattern accepts [value] =
      (op.patternText value >>= fun text => if accepts text then .ok () else .error (.invalidPattern text)) := by
  rcases pattern with rfl | rfl <;> rfl

theorem checkPattern_of_not_isPattern {accepts : String → Bool} {op : Operator} (plain : ¬ op.IsPattern)
    (values : List Json) : op.checkPattern accepts values = .ok () := by
  unfold checkPattern
  split
  · exact absurd (.inl rfl) plain
  · exact absurd (.inr rfl) plain
  · rfl

theorem IsPattern.exists_eq_singleton {op : Operator} (pattern : op.IsPattern) {values : List Json}
    (counted : op.arity = some (values.length + 1)) : ∃ value, values = [value] := by
  have single : values.length = 1 := by
    rcases pattern with rfl | rfl <;> simpa [arity] using counted.symm
  exact List.length_eq_one_iff.mp single

theorem checkPattern_eq_ok_iff {accepts : String → Bool} {op : Operator} {values : List Json}
    (counted : op.arity = some (values.length + 1)) :
    op.checkPattern accepts values = .ok () ↔
      (op.IsPattern → ∀ value ∈ values, ∃ text, value = .string text ∧ accepts text = true) := by
  by_cases pattern : op.IsPattern
  · obtain ⟨value, rfl⟩ := pattern.exists_eq_singleton counted
    simp only [checkPattern_of_isPattern pattern, bind_eq_ok_iff, patternText_eq_ok_iff, pattern, true_implies,
      List.mem_singleton, forall_eq]
    refine exists_congr fun text => and_congr_right fun _ => ?_
    by_cases accepted : accepts text = true <;> simp [accepted]
  · simp [checkPattern_of_not_isPattern pattern, pattern]

theorem checkPattern_eq_error_iff {accepts : String → Bool} {op : Operator} {values : List Json} {error : Error}
    (counted : op.arity = some (values.length + 1)) :
    op.checkPattern accepts values = .error error ↔
      op.IsPattern ∧ ∃ value, values = [value] ∧
        ((∀ text, value ≠ .string text) ∧ error = .malformedCondition (.patternNotText op value) ∨
          ∃ text, value = .string text ∧ accepts text = false ∧ error = .invalidPattern text) := by
  by_cases pattern : op.IsPattern
  · obtain ⟨value, rfl⟩ := pattern.exists_eq_singleton counted
    simp only [checkPattern_of_isPattern pattern, bind_eq_error_iff, patternText_eq_error_iff, patternText_eq_ok_iff,
      pattern, true_and, List.cons.injEq, and_true, exists_eq_left']
    refine or_congr_right (exists_congr fun text => and_congr_right fun _ => ?_)
    by_cases accepted : accepts text = true <;> simp [accepted, eq_comm]
  · simp [checkPattern_of_not_isPattern pattern, pattern]

theorem check_eq_ok_iff {accepts : String → Bool} {op : Operator} {first : Operand} {rest : List Operand}
    (counted : op.arity = some (rest.length + 1)) :
    op.check accepts first rest = .ok () ↔ op.Takes accepts (first :: rest) := by
  simp only [check, bind_eq_ok_iff, column_eq_ok_iff, mapM_valueOf_eq_ok_iff]
  constructor
  · rintro ⟨name, named, values, rfl, checked⟩
    rw [List.length_map] at counted
    exact .fixed counted named ((checkPattern_eq_ok_iff counted).mp checked)
  · -- The operands of `Takes.fixed` are an image, which `first :: rest` does not show.
    generalize same : first :: rest = operands
    intro takes
    cases takes with
    | connective variadic =>
      rw [variadic] at counted
      cases counted
    | fixed enough named patterns =>
      cases same
      exact ⟨_, named, _, rfl, (checkPattern_eq_ok_iff enough).mpr patterns⟩

theorem check_eq_error_iff {accepts : String → Bool} {op : Operator} {first : Operand} {rest : List Operand}
    {error : Error} (counted : op.arity = some (rest.length + 1)) :
    op.check accepts first rest = .error error ↔ op.Fault accepts (first :: rest) error := by
  simp only [check, bind_eq_error_iff, column_eq_error_iff, column_eq_ok_iff, mapM_valueOf_eq_error_iff,
    mapM_valueOf_eq_ok_iff]
  constructor
  · rintro (fault | ⟨name, named, ⟨⟨condition, member⟩, rfl⟩ | ⟨values, rfl, checked⟩⟩)
    · exact .column counted fault
    · exact .nested counted named member
    · rw [List.length_map] at counted
      obtain ⟨pattern, value, rfl, ⟨other, rfl⟩ | ⟨text, rfl, refused, rfl⟩⟩ :=
        (checkPattern_eq_error_iff counted).mp checked
      · exact .patternNotText pattern named other
      · exact .patternRefused pattern named refused
  · intro fault
    cases fault with
    | count arity wrong =>
      rw [counted, Option.some.injEq] at arity
      exact absurd arity wrong
    | column _ fault => exact .inl fault
    | nested _ named member => exact .inr ⟨_, named, .inl ⟨⟨_, member⟩, rfl⟩⟩
    | patternNotText pattern named other =>
      refine .inr ⟨_, named, .inr ⟨[_], rfl, (checkPattern_eq_error_iff counted).mpr ?_⟩⟩
      exact ⟨pattern, _, rfl, .inl ⟨other, rfl⟩⟩
    | patternRefused pattern named refused =>
      refine .inr ⟨_, named, .inr ⟨[_], rfl, (checkPattern_eq_error_iff counted).mpr ?_⟩⟩
      exact ⟨pattern, _, rfl, .inr ⟨_, rfl, refused, rfl⟩⟩

theorem exists_first {op : Operator} {operands : List Operand} (counted : op.arity = some operands.length) :
    ∃ first rest, operands = first :: rest ∧ op.arity = some (rest.length + 1) := by
  cases operands with
  | nil => cases op <;> cases counted
  | cons first rest => exact ⟨first, rest, rfl, counted⟩

theorem not_takes_of_count {accepts : String → Bool} {op : Operator} {operands : List Operand} {expected : Nat}
    (arity : op.arity = some expected) (wrong : operands.length ≠ expected) : ¬ op.Takes accepts operands := by
  intro takes
  cases takes with
  | connective variadic =>
    rw [variadic] at arity
    cases arity
  | fixed counted named patterns =>
    rw [counted, Option.some.injEq] at arity
    exact wrong (by simpa using arity)

theorem fault_iff_of_count {accepts : String → Bool} {op : Operator} {operands : List Operand} {expected : Nat}
    {error : Error} (arity : op.arity = some expected) (wrong : operands.length ≠ expected) :
    op.Fault accepts operands error ↔
      error = .malformedCondition (.operandCount op expected operands.length) := by
  constructor
  · intro fault
    cases fault with
    | count again _ =>
      rw [arity, Option.some.injEq] at again
      rw [again]
    | column counted _ | nested counted _ _ =>
      rw [arity, Option.some.injEq] at counted
      exact absurd counted.symm wrong
    | patternNotText pattern _ _ | patternRefused pattern _ _ =>
      have two : expected = 2 := by rcases pattern with rfl | rfl <;> exact (Option.some.inj arity).symm
      exact absurd two.symm wrong
  · rintro rfl
    exact .count arity wrong

theorem not_fault_of_connective {accepts : String → Bool} {op : Operator} {operands : List Operand} {error : Error}
    (connective : op.arity = none) : ¬ op.Fault accepts operands error := by
  intro fault
  cases fault with
  | count arity _ | column arity _ | nested arity _ _ =>
    rw [connective] at arity
    cases arity
  | patternNotText pattern _ _ | patternRefused pattern _ _ =>
    rcases pattern with rfl | rfl <;> cases connective

theorem exists_compileFixed_iff {accepts : String → Bool} {op : Operator} {operands : List Operand}
    (fixed : op.arity ≠ none) :
    (∃ fragment, op.compileFixed accepts operands = .ok fragment) ↔ op.Takes accepts operands := by
  obtain ⟨expected, arity⟩ := Option.ne_none_iff_exists'.mp fixed
  by_cases count : operands.length = expected
  · subst count
    obtain ⟨first, rest, rfl, counted⟩ := exists_first arity
    rw [← check_eq_ok_iff counted, ← map_compileFixed counted, map_eq_ok_unit_iff]
  · simp [compileFixed_of_count arity count, not_takes_of_count arity count]

theorem compileFixed_eq_error_iff {accepts : String → Bool} {op : Operator} {operands : List Operand} {error : Error}
    (fixed : op.arity ≠ none) :
    op.compileFixed accepts operands = .error error ↔ op.Fault accepts operands error := by
  obtain ⟨expected, arity⟩ := Option.ne_none_iff_exists'.mp fixed
  by_cases count : operands.length = expected
  · subst count
    obtain ⟨first, rest, rfl, counted⟩ := exists_first arity
    rw [← check_eq_error_iff counted, ← map_compileFixed counted, map_eq_error_iff]
  · rw [compileFixed_of_count arity count, fault_iff_of_count arity count, Except.error.injEq, eq_comm]

end Operator

end FindQuery
