import FindQuery.Condition.Described

namespace FindQuery

inductive MalformedCondition where
  | unknownOperator (name : String)
  | operatorNotText (value : Json)
  | unsupportedValue (value : Json)
  | operandCount (operator : Operator) (expected actual : Nat)
  | noColumns (operator : Operator)
  | columnNotNamed (operator : Operator) (operand : Operand)
  | nestedCondition (operator : Operator)
  | patternNotText (operator : Operator) (value : Json)
  | rawNotJson (source : String)
  | rawNotObject (value : Json)

inductive SerializationFault where
  | missingField (field : String)
  | notJson (source : String)
  /-- A document is not of the type that it is read as. The type says why. -/
  | mismatch (reason : String)

inductive Error where
  | malformedCondition (cause : MalformedCondition)
  | unsupportedCompositeKey (operator : Operator) (columns : List Json)
  | invalidPattern (pattern : String)
  | serialization (fault : SerializationFault)
  | connection (reason : String)
  | http (status : Nat) (reason : String)
  | timeout

/-- Errors without what is said about them. -/
inductive ErrorKind where
  | malformedCondition
  | unsupportedCompositeKey
  | invalidPattern (pattern : String)
  | serialization
  | connection
  | http (status : Nat)
  | timeout

namespace ErrorKind

def describe (kind : ErrorKind) (text : String) : String :=
  match kind with
  | .malformedCondition => "Malformed condition: " ++ text
  | .unsupportedCompositeKey => "Composite key not supported: " ++ text
  | .invalidPattern pattern =>
    "Invalid pattern " ++ String.ofList (Text.inMessage pattern) ++ ": " ++ text
  | .serialization => "Serialization error: " ++ text
  | .connection => "Connection error: " ++ text
  | .http status => "HTTP " ++ toString status ++ ": " ++ text
  | .timeout => "Timeout"

def isCompileError : ErrorKind → Bool
  | .malformedCondition | .unsupportedCompositeKey | .invalidPattern _ => true
  | _ => false

end ErrorKind

def MalformedCondition.text : MalformedCondition → String
  | .unknownOperator name => "unknown operator " ++ String.ofList (Text.inMessage name)
  | .operatorNotText value => "operator name must be a string, got " ++ value.render
  | .unsupportedValue value => "unsupported condition " ++ value.render
  | .operandCount op expected actual =>
    op.name ++ " expects " ++ toString expected ++ " operands, got " ++ toString actual
  | .noColumns op => op.name ++ " with an empty column list"
  | .columnNotNamed op operand =>
    op.name ++ " expects a column name, got " ++ String.ofList operand.described
  | .nestedCondition op => op.name ++ " expects a value operand, got a nested condition"
  | .patternNotText op value => op.name ++ " pattern must be a string, got " ++ value.render
  | .rawNotJson _ => "raw selector is not JSON:"
  | .rawNotObject value => "raw selector fragment must be an object, got " ++ value.render

def SerializationFault.text : SerializationFault → String
  | .missingField field => "document has no " ++ field ++ " field"
  | .notJson _ => "not JSON"
  | .mismatch reason => reason

namespace Error

def kind : Error → ErrorKind
  | .malformedCondition _ => .malformedCondition
  | .unsupportedCompositeKey _ _ => .unsupportedCompositeKey
  | .invalidPattern pattern => .invalidPattern pattern
  | .serialization _ => .serialization
  | .connection _ => .connection
  | .http status _ => .http status
  | .timeout => .timeout

def text : Error → String
  | .malformedCondition cause => cause.text
  | .unsupportedCompositeKey op columns => op.name ++ " over columns " ++ (Json.array columns).render
  | .invalidPattern _ => "not accepted"
  | .serialization fault => fault.text
  | .connection reason => reason
  | .http _ reason => reason
  | .timeout => ""

def message (error : Error) : String := error.kind.describe error.text

def isCompileError (error : Error) : Bool := error.kind.isCompileError

end Error

end FindQuery
