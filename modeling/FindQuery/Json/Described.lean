import FindQuery.Json.Printer
import FindQuery.Text.Escapes
import FindQuery.Unicode.Derived

namespace FindQuery

namespace Text

/-- Characters that do not show, or that would merge with the one before them. The space shows. -/
def needsNumber (c : Char) : Bool :=
  c ≠ ' ' &&
    (Unicode.nongraphic.contains c.toNat || Unicode.graphemeExtend.contains c.toNat ||
      Unicode.Category.spaceSeparator.codeSet.contains c.toNat)

def messageChar (c : Char) : List Char :=
  if c = '\x00' then ['\\', '0']
  else if c = '\t' then ['\\', 't']
  else if c = '\r' then ['\\', 'r']
  else if c = '\n' then ['\\', 'n']
  else if c = '"' then ['\\', '"']
  else if c = '\\' then ['\\', '\\']
  else if needsNumber c then '\\' :: 'u' :: '\x7b' :: hexText c.toNat ++ ['\x7d']
  else [c]

def inMessage (text : String) : List Char := '"' :: text.toList.flatMap messageChar ++ ['"']

end Text

def commaSeparated (parts : List (List Char)) : List Char :=
  List.intercalate [',', ' '] parts

def tagged (kind : String) (content : List Char) : List Char := kind.toList ++ '(' :: content ++ [')']

namespace Json

mutual

def described : Json → List Char
  | .null => "Null".toList
  | .bool value => tagged "Bool" (Json.bool value).chars
  | .number value => tagged "Number" value.chars
  | .string value => tagged "String" (Text.inMessage value)
  | .array items => "Array [".toList ++ commaSeparated (describedItems items) ++ [']']
  | .object fields => "Object \x7b".toList ++ commaSeparated (describedFields fields) ++ ['\x7d']

def describedItems : List Json → List (List Char)
  | [] => []
  | item :: rest => item.described :: describedItems rest

def describedFields : List (String × Json) → List (List Char)
  | [] => []
  | (key, value) :: rest =>
    (Text.inMessage key ++ ':' :: ' ' :: value.described) :: describedFields rest

end

end Json

end FindQuery
