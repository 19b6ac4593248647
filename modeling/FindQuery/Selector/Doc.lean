import FindQuery.Condition.Basic
import FindQuery.Error
import FindQuery.Json.Tree
import FindQuery.Selector.Basic

namespace FindQuery

/-- A strict bound, with null the lowest value in the store's order: a field that is there and holds null stays out. -/
def existenceConstraint : Json := .object [(Token.gt, .null)]

inductive SelectorDoc where
  | structured (selector : Selector)
  | other (value : Json)
  /-- JSON text that is not looked into. -/
  | text (source : String)

namespace SelectorDoc

def ofRaw : RawSelector → SelectorDoc
  | .text source => .text source
  | .structured (.object fields) => .structured (.ofFields fields)
  | .structured value => .other value

def conjunctionText (source : String) (selector : Selector) : String :=
  "\x7b\"" ++ Token.and ++ "\":[" ++ source ++ "," ++ selector.render ++ "]\x7d"

def andRaw (raw : RawSelector) (compiled : Selector) : SelectorDoc :=
  match raw with
  | .text source => .text (conjunctionText source compiled)
  | .structured value => .structured (.single Token.and (.array [value, compiled.toJson]))

/-- Whether a field is a key of the document itself. Texts show no keys. -/
def constrains (doc : SelectorDoc) (field : String) : Bool :=
  match doc with
  | .structured selector => selector.hasKey field
  | .other (.object fields) => Fields.hasKey fields field
  | _ => false

/-- Adds constraints beside the keys that are there, which stay as they are. A document without keys of
its own becomes one side of a conjunction. -/
def withConstraints (doc : SelectorDoc) (extra : Selector) : SelectorDoc :=
  if extra.isEmpty then doc
  else match doc with
    | .structured selector => .structured (selector.addMissing extra)
    | .other (.object fields) => .structured ((Selector.ofFields fields).addMissing extra)
    | .other value => .structured (.single Token.and (.array [value, extra.toJson]))
    | .text source => andRaw (.text source) extra

def asSelector? : SelectorDoc → Option Selector
  | .structured selector => some selector
  | _ => none

def toJson : SelectorDoc → Except Error Json
  | .structured selector => .ok selector.toJson
  | .other value => .ok value
  | .text source =>
    match Json.parse? source with
    | some value => .ok value
    | none => .error (.serialization (.notJson source))

end SelectorDoc

end FindQuery
