import FindQuery.Json.Printer
import FindQuery.Json.Tree

namespace FindQuery

/-- The members of a record in a fixed order, each with its value where it is given. -/
abbrev Slots := List (Option Json)

namespace Slots

def pick? {α : Type} (name : String) (members : List (String × α)) : Option (Option α) :=
  match members.filter (·.1 = name) with
  | [] => some none
  | [member] => some (some member.2)
  | _ => none

/-- Values in the order of the names. There may be fewer of them, but not more. -/
def ofItems? (names : List String) (items : List Json) : Option Slots :=
  if items.length ≤ names.length then
    some (items.map some ++ List.replicate (names.length - items.length) none)
  else none

def ofJson? (names : List String) : Json → Option Slots
  | .object fields => some (names.map fun name => Fields.get? name fields)
  | .array items => ofItems? names items
  | _ => none

def decodedMembers? (members : List (List Json.Piece × Json.Tree)) :
    Option (List (String × Json.Tree)) :=
  members.mapM fun member => (Json.decodeText? member.1).map (·, member.2)

def memberLevels : Nat := Json.depthLimit - 1

/-- A member of a text: it may be missing, but it is not repeated, and its value has to be JSON. -/
def slot? (members : List (String × Json.Tree)) (name : String) : Option (Option Json) :=
  (pick? name members).bind fun found =>
    match found with
    | none => some none
    | some tree => (tree.json? memberLevels).map some

/-- The members of a text that writes a record. Members that are not asked for need not have a value. -/
def ofTree? (names : List String) : Json.Tree → Option Slots
  | .object members => (decodedMembers? members).bind fun members => names.mapM (slot? members)
  | .array items => (Json.Tree.items? memberLevels items).bind (ofItems? names)
  | _ => none

def ofText? (names : List String) (text : String) : Option Slots :=
  (Json.Tree.ofText? text.toList).bind (ofTree? names)

def optionalText? : Option Json → Option (Option String)
  | none => some none
  | some .null => some none
  | some (.string text) => some (some text)
  | some _ => none

def optionalValue : Option Json → Option Json
  | some .null => none
  | slot => slot

end Slots

structure FindResponse where
  docs : List Json
  bookmark : Option String
  warning : Option String
  executionStats : Option Json

namespace FindResponse

def names : List String := ["docs", "bookmark", "warning", "execution_stats"]

def docs? : Option Json → Option (List Json)
  | none => some []
  | some (.array docs) => some docs
  | some _ => none

def ofSlots? : Slots → Option FindResponse
  | [docs, bookmark, warning, executionStats] =>
    (docs? docs).bind fun docs =>
      (Slots.optionalText? bookmark).bind fun bookmark =>
        (Slots.optionalText? warning).map fun warning =>
          ⟨docs, bookmark, warning, Slots.optionalValue executionStats⟩
  | _ => none

def ofText? (text : String) : Option FindResponse := (Slots.ofText? names text).bind ofSlots?

def ofJson? (value : Json) : Option FindResponse := (Slots.ofJson? names value).bind ofSlots?

def member (name : String) : Option Json → Fields
  | some value => [(name, value)]
  | none => []

def toJson (response : FindResponse) : Json :=
  .object (("docs", .array response.docs) ::
    (member "bookmark" (response.bookmark.map Json.string) ++
      member "warning" (response.warning.map Json.string) ++
      member "execution_stats" response.executionStats))

def render (response : FindResponse) : String := response.toJson.render

def ofDocs (docs : List Json) : FindResponse := ⟨docs, none, none, none⟩

end FindResponse

structure ErrorReport where
  error : String
  reason : String
  deriving DecidableEq, Repr

namespace ErrorReport

def names : List String := ["error", "reason"]

def ofSlots? : Slots → Option ErrorReport
  | [some (.string error), none] => some ⟨error, ""⟩
  | [some (.string error), some (.string reason)] => some ⟨error, reason⟩
  | _ => none

def ofText? (text : String) : Option ErrorReport := (Slots.ofText? names text).bind ofSlots?

def toJson (report : ErrorReport) : Json :=
  .object [("error", .string report.error), ("reason", .string report.reason)]

def render (report : ErrorReport) : String := report.toJson.render

def summary (report : ErrorReport) : String :=
  if report.reason.isEmpty then report.error else report.error ++ ": " ++ report.reason

end ErrorReport

end FindQuery
