import FindQuery.Query.Spec
import FindQuery.Selector.Doc

namespace FindQuery

structure CompiledQuery where
  database : String
  selector : SelectorDoc
  sort : Option (List Json)
  fields : Option (List String)
  source : Option Json
  limit : Option UInt64
  skip : Option UInt64
  extra : Fields
  options : RequestOptions

namespace CompiledQuery

def member (key : String) (value : Option Json) : Fields :=
  match value with
  | some value => [(key, value)]
  | none => []

def sortJson (query : CompiledQuery) : Option Json := query.sort.map .array

def fieldsJson (query : CompiledQuery) : Option Json :=
  query.fields.map fun names => .array (names.map Json.string)

def members (query : CompiledQuery) (selector : Json) : Fields :=
  ("selector", selector) ::
    (member "sort" query.sortJson ++ member "fields" query.fieldsJson ++
      member "_source" query.source ++ member "limit" (query.limit.map Json.ofUInt64) ++
      member "skip" (query.skip.map Json.ofUInt64))

def gaps (members extra : Fields) : Fields := extra.filter fun field => !Fields.hasKey members field.1

/-- The body of the request. Extra members fill in where no compiled member stands. -/
def body (query : CompiledQuery) : Except Error Json :=
  query.selector.toJson.map fun selector =>
    .object (query.members selector ++ gaps (query.members selector) query.extra)

def bodyText (query : CompiledQuery) : Except Error String := query.body.map Json.render

end CompiledQuery

end FindQuery
