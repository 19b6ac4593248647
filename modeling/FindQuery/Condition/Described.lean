import FindQuery.Condition.Basic
import FindQuery.Json.Described

namespace FindQuery

def RawSelector.described : RawSelector → List Char
  | .text source => tagged "Text" (Text.inMessage source)
  | .structured value => tagged "Structured" value.described

def HashValue.described : HashValue → List Char
  | .literal value => tagged "Literal" value.described
  | .list values => tagged "List" ('[' :: commaSeparated (Json.describedItems values) ++ [']'])
  | .native value => tagged "Native" value.described

def HashValue.describedPair (pair : String × HashValue) : List Char :=
  '(' :: commaSeparated [Text.inMessage pair.1, pair.2.described] ++ [')']

mutual

def Condition.described : Condition → List Char
  | .empty => "Empty".toList
  | .hash pairs => tagged "Hash" ('[' :: commaSeparated (pairs.map HashValue.describedPair) ++ [']'])
  | .operation op operands =>
    tagged "Operator"
      (commaSeparated [op.kind.toList, '[' :: commaSeparated (Operand.describedList operands) ++ [']']])
  | .raw selector => tagged "Raw" selector.described

def Operand.described : Operand → List Char
  | .condition condition => tagged "Condition" condition.described
  | .value value => tagged "Value" value.described

def Operand.describedList : List Operand → List (List Char)
  | [] => []
  | operand :: rest => operand.described :: Operand.describedList rest

end

end FindQuery
