import FindQuery.Condition.Compile
import FindQuery.Query.Compiled

namespace FindQuery

inductive LogEvent where
  | injecting (field : String)
  | compiled (database : String) (keys : Option (List String)) (sortKeys : Nat) (limit skip : Option UInt64)
  deriving DecidableEq, Repr

inductive LogLevel where
  | trace
  | debug
  | warn
  deriving DecidableEq, Repr

def LogLevel.name : LogLevel → String
  | .trace => "TRACE"
  | .debug => "DEBUG"
  | .warn => "WARN"

namespace LogEvent

def level : LogEvent → LogLevel
  | .injecting _ => .trace
  | .compiled .. => .debug

def keysText : Option (List String) → String
  | none => "None"
  | some keys =>
    String.ofList (tagged "Some" ('[' :: commaSeparated (keys.map Text.inMessage) ++ [']']))

def countText : Option UInt64 → String
  | none => "None"
  | some count => String.ofList (tagged "Some" (Nat.toDigits 10 count.toNat))

def text : LogEvent → String
  | .injecting field => "injecting existence constraint for sort field " ++ field
  | .compiled database keys sortKeys limit skip =>
    "compiled find on " ++ database ++ ": selector keys " ++ keysText keys ++ ", " ++ toString sortKeys ++
      " sort keys, limit " ++ countText limit ++ ", skip " ++ countText skip

end LogEvent

namespace QuerySpec

/-- The fields that the store is asked for: the names that identify a document are put first, where they
are not among the others. -/
def requestedFields (config : Config) : Projection → Option (List String)
  | .whole => none
  | .nothing => some []
  | .named [] => some []
  | .named pairs =>
    let sources := pairs.map Prod.snd
    let required := [config.primaryKey, config.revisionField]
    some (required.filter (fun name => !sources.contains name) ++ sources)

/-- The selector before sorting is taken into account. There is always one: without any other it asks
that the primary key exists. -/
def composed (config : Config) (raw : Option RawSelector) (compiled : Selector) : SelectorDoc :=
  match raw with
  | some raw => if compiled.isEmpty then .ofRaw raw else .andRaw raw compiled
  | none =>
    .structured (if compiled.isEmpty then .single config.primaryKey existenceConstraint else compiled)

/-- The sort fields that are no keys of the selector, each once, in the order of their first mention. -/
def unconstrained (doc : SelectorDoc) (orderBy : List SortSpec) : List String :=
  orderBy.foldl
    (fun found sort =>
      if doc.constrains sort.field || found.contains sort.field then found else found ++ [sort.field])
    []

def constraints (fields : List String) : Selector :=
  .ofFields (fields.map fun field => (field, existenceConstraint))

def sortEntries (orderBy : List SortSpec) : Option (List Json) :=
  if orderBy.isEmpty then none
  else some (orderBy.map fun sort => .object [(sort.field, sort.direction.toJson)])

def skipped (spec : QuerySpec) : Option UInt64 := if 0 < spec.offset then some spec.offset else none

/-- The query that a description and its compiled condition make. Every sort field has to be in the
selector, for an index to be of use. -/
def compiledWith (spec : QuerySpec) (compiled : Selector) : CompiledQuery where
  database := spec.database
  selector :=
    let doc := composed spec.config spec.rawSelector compiled
    doc.withConstraints (constraints (unconstrained doc spec.orderBy))
  sort := sortEntries spec.orderBy
  fields := requestedFields spec.config spec.projection
  source := spec.source
  limit := spec.limit
  skip := spec.skipped
  extra := spec.rawQuery
  options := spec.options

def events (spec : QuerySpec) (compiled : Selector) : List LogEvent :=
  let doc := composed spec.config spec.rawSelector compiled
  let query := spec.compiledWith compiled
  (unconstrained doc spec.orderBy).map LogEvent.injecting ++
    [.compiled spec.database (query.selector.asSelector?.map Selector.keys) spec.orderBy.length spec.limit
      spec.skipped]

section

variable (accepts : String → Bool)

/-- Compiles a description. What is logged goes with the query; a failure logs nothing. -/
def assembleLoggedWith (spec : QuerySpec) : Except Error (CompiledQuery × List LogEvent) :=
  (spec.condition.compileWith accepts).map fun compiled => (spec.compiledWith compiled, spec.events compiled)

def assembleWith (spec : QuerySpec) : Except Error CompiledQuery :=
  (spec.assembleLoggedWith accepts).map Prod.fst

end

def assembleLogged (spec : QuerySpec) : Except Error (CompiledQuery × List LogEvent) :=
  spec.assembleLoggedWith Pattern.accepts

def assemble (spec : QuerySpec) : Except Error CompiledQuery := spec.assembleWith Pattern.accepts

end QuerySpec

end FindQuery
