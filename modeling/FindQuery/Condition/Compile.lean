import FindQuery.Condition.Shorthand
import FindQuery.Pattern.Size
import FindQuery.Selector.Doc

namespace FindQuery

def malformed {α : Type} (cause : MalformedCondition) : Except Error α :=
  .error (.malformedCondition cause)

def membership (op : Operator) (column : String) (values : List Json) : Selector :=
  .single column (.object [(op.token, .array values)])

def HashValue.compile : HashValue → Json
  | .literal value => value
  | .native value => value
  | .list values => .object [(Operator.isIn.token, .array values)]

/-- The last pair of a key counts, in the place of the first. -/
def compileHash (pairs : List (String × HashValue)) : Selector :=
  .ofFields (pairs.map fun pair => (pair.1, pair.2.compile))

def RawSelector.compile : RawSelector → Except Error Selector
  | .structured (.object fields) => .ok (.ofFields fields)
  | .structured value => malformed (.rawNotObject value)
  | .text source =>
    match Json.parse? source with
    | some (.object fields) => .ok (.ofFields fields)
    | some value => malformed (.rawNotObject value)
    | none => malformed (.rawNotJson source)

namespace Operator

def columnName (op : Operator) (operand : Operand) : Except Error String :=
  match operand with
  | .value (.string name) => if name.isEmpty then malformed (.columnNotNamed op operand) else .ok name
  | _ => malformed (.columnNotNamed op operand)

/-- The column of a membership, which may stand in a list of its own. -/
def membershipColumn (op : Operator) (operand : Operand) : Except Error String :=
  match operand with
  | .value (.array []) => malformed (.noColumns op)
  | .value (.array [column]) => op.columnName (.value column)
  | .value (.array columns) => .error (.unsupportedCompositeKey op columns)
  | operand => op.columnName operand

def valueOf (op : Operator) : Operand → Except Error Json
  | .value value => .ok value
  | .condition _ => malformed (.nestedCondition op)

def membershipValues : Json → List Json
  | .array values => values
  | value => [value]

def patternText (op : Operator) : Json → Except Error String
  | .string pattern => .ok pattern
  | value => malformed (.patternNotText op value)

def compileRange (op : Operator) (lowerToken upperToken : String) (column lower upper : Operand) :
    Except Error Selector := do
  let name ← op.columnName column
  let lower ← op.valueOf lower
  let upper ← op.valueOf upper
  return .single name (.object [(lowerToken, lower), (upperToken, upper)])

def compileMembership (op : Operator) (column values : Operand) : Except Error Selector := do
  let name ← op.membershipColumn column
  let values ← op.valueOf values
  return membership op name (membershipValues values)

def compilePattern (accepts : String → Bool) (op : Operator) (column pattern : Operand) :
    Except Error Selector := do
  let name ← op.columnName column
  let value ← op.valueOf pattern
  let pattern ← op.patternText value
  if accepts pattern then return .single name (.object [(Token.regex, .string pattern)])
  else throw (.invalidPattern pattern)

/-- Operators with a fixed number of operands. The two bounds of `NOT BETWEEN` are one field's entries,
which the store takes together. -/
def compileFixed (accepts : String → Bool) (op : Operator) (operands : List Operand) :
    Except Error Selector :=
  match op, operands with
  | .between, [column, lower, upper] => op.compileRange Token.gte Token.lte column lower upper
  | .notBetween, [column, lower, upper] => op.compileRange Token.lt Token.gt column lower upper
  | .isIn, [column, values] => op.compileMembership column values
  | .notIn, [column, values] => op.compileMembership column values
  | .regex, [column, pattern] => op.compilePattern accepts column pattern
  | .like, [column, pattern] => op.compilePattern accepts column pattern
  | op, operands => malformed (.operandCount op (op.arity.getD 0) operands.length)

def group (op : Operator) (fragments : List Selector) : Selector :=
  .single op.token (.array (fragments.map Selector.toJson))

end Operator

section

variable (accepts : String → Bool)

mutual

def compileJson : Json → Except Error Selector
  | .null => .ok .empty
  | .string source => (RawSelector.text source).compile
  | .object fields =>
    .ok (compileHash (fields.map fun field => (field.1, HashValue.classify field.1 field.2)))
  | .array [] => .ok .empty
  | .array (.string name :: operands) =>
    match Operator.ofName name with
    | .error error => .error error
    | .ok op =>
      if op.arity.isNone then (compileJsonList operands).map op.group
      else op.compileFixed accepts (operands.map Operand.value)
  | .array (value :: _) => malformed (.operatorNotText value)
  | value => malformed (.unsupportedValue value)

def compileJsonList : List Json → Except Error (List Selector)
  | [] => .ok []
  | value :: rest => do
    let first ← compileJson value
    let others ← compileJsonList rest
    return first :: others

end

mutual

/-- Compiles a condition. The first operand that cannot be compiled decides the error. -/
def Condition.compileWith : Condition → Except Error Selector
  | .empty => .ok .empty
  | .hash pairs => .ok (compileHash pairs)
  | .operation op operands =>
    if op.arity.isNone then (Operand.compileList operands).map op.group
    else op.compileFixed accepts operands
  | .raw selector => selector.compile

def Operand.compileWith : Operand → Except Error Selector
  | .condition condition => condition.compileWith
  | .value value => compileJson accepts value

def Operand.compileList : List Operand → Except Error (List Selector)
  | [] => .ok []
  | operand :: rest => do
    let first ← operand.compileWith
    let others ← Operand.compileList rest
    return first :: others

end

theorem Operand.compileList_map_value (values : List Json) :
    Operand.compileList accepts (values.map Operand.value) = compileJsonList accepts values := by
  induction values with
  | nil => simp [Operand.compileList, compileJsonList]
  | cons value rest ih =>
    simp only [List.map_cons, Operand.compileList, Operand.compileWith, compileJsonList, ih]

theorem compileJson_eq_ofJson_bind (value : Json) :
    compileJson accepts value = (Condition.ofJson value).bind (Condition.compileWith accepts) := by
  match value with
  | .null => rfl
  | .bool _ => rfl
  | .number _ => rfl
  | .string _ => rfl
  | .object [] => rfl
  | .object (_ :: _) => rfl
  | .array [] => rfl
  | .array (.null :: _) => rfl
  | .array (.bool _ :: _) => rfl
  | .array (.number _ :: _) => rfl
  | .array (.array _ :: _) => rfl
  | .array (.object _ :: _) => rfl
  | .array (.string name :: operands) =>
    simp only [compileJson, Condition.ofJson]
    cases Operator.ofName name with
    | error error => rfl
    | ok op => simp only [Except.map, Except.bind, Condition.compileWith, Operand.compileList_map_value]

end

def Condition.compile (condition : Condition) : Except Error Selector :=
  condition.compileWith Pattern.accepts

end FindQuery
