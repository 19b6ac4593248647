import FindQuery.Error
import FindQuery.Text.Words

namespace FindQuery

namespace Operator

def spelling (name : String) : List Char :=
  Text.upper (List.intercalate [' '] (Text.words name.toList))

/-- Names are read whatever their letter case and the white space around and between their words. -/
def ofName (name : String) : Except Error Operator :=
  match all.find? fun op => op.name.toList = spelling name with
  | some op => .ok op
  | none => .error (.malformedCondition (.unknownOperator name))

end Operator

/-- Reads a condition. Operands are taken as values; what they mean is seen when they are compiled. -/
def Condition.ofJson : Json → Except Error Condition
  | .null => .ok .empty
  | .string source => .ok (.raw (.text source))
  | .object [] => .ok .empty
  | .object fields => .ok (.ofPairs fields)
  | .array [] => .ok .empty
  | .array (.string name :: operands) =>
    (Operator.ofName name).map fun op => .operation op (operands.map Operand.value)
  | .array (value :: _) => .error (.malformedCondition (.operatorNotText value))
  | value => .error (.malformedCondition (.unsupportedValue value))

end FindQuery
