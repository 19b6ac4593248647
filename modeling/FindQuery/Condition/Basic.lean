import FindQuery.Condition.Operator
import FindQuery.Json.Basic

namespace FindQuery

/-- A selector that is sent as the caller wrote it. -/
inductive RawSelector where
  | text (source : String)
  | structured (value : Json)

inductive HashValue where
  | literal (value : Json)
  | list (values : List Json)
  | native (value : Json)

mutual

inductive Condition where
  | empty
  /-- What holds of some fields. Of several pairs for one field, the last counts. -/
  | hash (pairs : List (String × HashValue))
  | operation (operator : Operator) (operands : List Operand)
  | raw (selector : RawSelector)

inductive Operand where
  | condition (condition : Condition)
  | value (value : Json)

end

instance : Inhabited Condition := ⟨.empty⟩

/-- Under a native key a value is passed on; else a list means one of its items, an object is native,
and any other value is a literal. -/
def HashValue.classify (key : String) (value : Json) : HashValue :=
  if Token.isNative key then .native value
  else match value with
    | .array items => .list items
    | .object fields => .native (.object fields)
    | value => .literal value

namespace Operand

def text (value : String) : Operand := .value (.string value)

end Operand

namespace Condition

def isEmpty : Condition → Bool
  | .empty => true
  | .hash pairs => pairs.isEmpty
  | _ => false

def ofPairs (pairs : List (String × Json)) : Condition :=
  .hash (pairs.map fun pair => (pair.1, HashValue.classify pair.1 pair.2))

def and (conditions : List Condition) : Condition :=
  .operation .and (conditions.map Operand.condition)

def or (conditions : List Condition) : Condition :=
  .operation .or (conditions.map Operand.condition)

def between (column : String) (lower upper : Json) : Condition :=
  .operation .between [.text column, .value lower, .value upper]

def notBetween (column : String) (lower upper : Json) : Condition :=
  .operation .notBetween [.text column, .value lower, .value upper]

def isIn (column : String) (values : List Json) : Condition :=
  .operation .isIn [.text column, .value (.array values)]

def notIn (column : String) (values : List Json) : Condition :=
  .operation .notIn [.text column, .value (.array values)]

def regex (column pattern : String) : Condition :=
  .operation .regex [.text column, .text pattern]

/-- The same as `regex`; the pattern is a regular expression here too. -/
def like (column pattern : String) : Condition :=
  .operation .like [.text column, .text pattern]

end Condition

def RawSelector.same : RawSelector → RawSelector → Bool
  | .text a, .text b => a == b
  | .structured a, .structured b => a.same b
  | _, _ => false

def HashValue.same : HashValue → HashValue → Bool
  | .literal a, .literal b => a.same b
  | .list a, .list b => Json.sameItems a b
  | .native a, .native b => a.same b
  | _, _ => false

def HashValue.samePairs : List (String × HashValue) → List (String × HashValue) → Bool
  | [], [] => true
  | (key, value) :: rest, (key', value') :: rest' =>
    key == key' && value.same value' && samePairs rest rest'
  | _, _ => false

mutual

/-- Equality of conditions, up to the order of fields inside values. -/
def Condition.same : Condition → Condition → Bool
  | .empty, .empty => true
  | .hash a, .hash b => HashValue.samePairs a b
  | .operation op a, .operation op' b => op == op' && Operand.sameList a b
  | .raw a, .raw b => a.same b
  | _, _ => false

def Operand.same : Operand → Operand → Bool
  | .condition a, .condition b => a.same b
  | .value a, .value b => a.same b
  | _, _ => false

def Operand.sameList : List Operand → List Operand → Bool
  | [], [] => true
  | a :: rest, b :: rest' => a.same b && Operand.sameList rest rest'
  | _, _ => false

end

end FindQuery
