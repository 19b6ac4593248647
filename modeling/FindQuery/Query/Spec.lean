import FindQuery.Condition.Basic

namespace FindQuery

structure Config where
  primaryKey : String
  revisionField : String
  deriving DecidableEq, Repr

def Config.standard : Config := ⟨"_id", "_rev"⟩

instance : Inhabited Config := ⟨Config.standard⟩

inductive SortDirection where
  | asc
  | desc
  | native (value : Json)

def SortDirection.toJson : SortDirection → Json
  | .asc => .string "asc"
  | .desc => .string "desc"
  | .native value => value

structure SortSpec where
  field : String
  direction : SortDirection

inductive Projection where
  | whole
  | nothing
  /-- Output names with the fields they are taken from. -/
  | named (pairs : List (String × String))
  deriving DecidableEq, Repr

structure RequestOptions where
  /-- In milliseconds. -/
  timeout : Option Nat
  deriving DecidableEq, Repr

structure QuerySpec where
  database : String
  condition : Condition
  rawSelector : Option RawSelector
  /-- Members of the request beside those that are compiled. -/
  rawQuery : Fields
  projection : Projection
  source : Option Json
  orderBy : List SortSpec
  limit : Option UInt64
  offset : UInt64
  options : RequestOptions
  config : Config

namespace QuerySpec

def ofDatabase (database : String) : QuerySpec where
  database := database
  condition := .empty
  rawSelector := none
  rawQuery := []
  projection := .whole
  source := none
  orderBy := []
  limit := none
  offset := 0
  options := ⟨none⟩
  config := .standard

inductive Step where
  | filter (condition : Condition)
  | andFilter (condition : Condition)
  | rawSelector (selector : RawSelector)
  | rawQuery (key : String) (value : Json)
  | fields (names : List String)
  | fieldsAs (pairs : List (String × String))
  | noFields
  | source (value : Json)
  | orderBy (field : String) (direction : SortDirection)
  | limit (count : UInt64)
  | offset (count : UInt64)
  | timeout (milliseconds : Nat)
  | options (options : RequestOptions)
  | config (config : Config)

def projectionOf : List (String × String) → Projection
  | [] => .nothing
  | pairs => .named pairs

/-- The conjunction with a condition that holds already. One that says nothing is dropped. -/
def conjoin (old new : Condition) : Condition := if old.isEmpty then new else .and [old, new]

def apply (spec : QuerySpec) : Step → QuerySpec
  | .filter condition => { spec with condition }
  | .andFilter condition => { spec with condition := conjoin spec.condition condition }
  | .rawSelector selector => { spec with rawSelector := some selector }
  | .rawQuery key value => { spec with rawQuery := spec.rawQuery.insert key value }
  | .fields names => { spec with projection := projectionOf (names.map fun name => (name, name)) }
  | .fieldsAs pairs => { spec with projection := projectionOf pairs }
  | .noFields => { spec with projection := .nothing }
  | .source value => { spec with source := some value }
  | .orderBy field direction => { spec with orderBy := spec.orderBy ++ [⟨field, direction⟩] }
  | .limit count => { spec with limit := some count }
  | .offset count => { spec with offset := count }
  | .timeout milliseconds => { spec with options := ⟨some milliseconds⟩ }
  | .options options => { spec with options }
  | .config config => { spec with config }

def run (spec : QuerySpec) (steps : List Step) : QuerySpec := steps.foldl apply spec

end QuerySpec

end FindQuery
