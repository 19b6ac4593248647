import FindQuery.Error
import FindQuery.Query.Spec
import FindQuery.Response.Basic

namespace FindQuery

structure RecordIdentity where
  id : String
  rev : Option String
  deriving DecidableEq, Repr

/-- A primary key that is no string is identified by its text. -/
def identityText : Json → String
  | .string id => id
  | value => value.render

def revisionText? : Json → Option String
  | .string rev => some rev
  | _ => none

def RecordIdentity.ofDoc (config : Config) (doc : Json) : Except Error RecordIdentity :=
  match doc.get? config.primaryKey with
  | some id => .ok ⟨identityText id, (doc.get? config.revisionField).bind revisionText?⟩
  | none => .error (.serialization (.missingField config.primaryKey))

def FindResponse.identities (config : Config) (response : FindResponse) :
    Except Error (List RecordIdentity) :=
  response.docs.mapM (RecordIdentity.ofDoc config)

/-- Types that documents are read as. A document of another form is refused, and the type says why. -/
class Record (α : Type) where
  read : Json → Except String α
  toJson : α → Json

def Json.integer? : Json → Option Int
  | .number (.integer value _) => some value
  | _ => none

def Json.kind : Json → String
  | .null => "null"
  | .bool value => "boolean `" ++ toString value ++ "`"
  | .number (.integer value _) => "integer `" ++ toString value ++ "`"
  | .number value => "floating point `" ++ (Json.number value).render ++ "`"
  | .string text => "string " ++ String.ofList (Text.inMessage text)
  | .array _ => "sequence"
  | .object _ => "map"

namespace Record

def refuse {α : Type} (expected : String) (value : Json) : Except String α :=
  .error ("invalid type: " ++ value.kind ++ ", expected " ++ expected)

/-- An integer from `least` to below `limit`. Real numbers are not read as integers. -/
def readInteger (expected : String) (least limit : Int) (value : Json) : Except String Int :=
  match value.integer? with
  | none => refuse expected value
  | some n =>
    if least ≤ n ∧ n < limit then .ok n
    else .error ("invalid value: " ++ value.kind ++ ", expected " ++ expected)

instance : Record Json := ⟨.ok, id⟩

def readText : Json → Except String String
  | .string text => .ok text
  | value => refuse "a string" value

instance : Record String := ⟨readText, Json.string⟩

instance : Record Bool where
  read
    | .bool value => .ok value
    | value => refuse "a boolean" value
  toJson := Json.bool

instance : Record Int64 where
  read value := (readInteger "i64" leastInteger (-leastInteger) value).map Int64.ofInt
  toJson value := ((Number.integer? value.toInt).map Json.number).getD .null

instance : Record UInt8 where
  read value := (readInteger "u8" 0 256 value).map fun n => UInt8.ofNat n.toNat
  toJson value := .ofUInt64 value.toUInt64

instance : Record (List String) where
  read
    | .array items => items.mapM readText
    | value => refuse "a sequence" value
  toJson items := .array (items.map Json.string)

end Record

def readRecord (α : Type) [Record α] (doc : Json) : Except Error α :=
  (Record.read doc).mapError fun reason => .serialization (.mismatch reason)

def FindResponse.records (α : Type) [Record α] (response : FindResponse) : Except Error (List α) :=
  response.docs.mapM (readRecord α)

end FindQuery
