import FindQuery.Text.Words

namespace FindQuery.Pattern

open FindQuery.Text

/-- The rest after blanks and comments; `inComment` says that a comment is open. -/
def skipSpaceFrom (inComment : Bool) : List Char → List Char
  | [] => []
  | c :: rest =>
    if inComment then skipSpaceFrom (c ≠ '\n') rest
    else if isBlank c then skipSpaceFrom false rest
    else if c = '#' then skipSpaceFrom true rest
    else c :: rest

def skipSpace (spaced : Bool) (text : List Char) : List Char :=
  if spaced then skipSpaceFrom false text else text

/-- The first character past blanks. A number sign is passed over once; its comment is not. Where nothing
but these is left, the first of them. -/
def peekSpaceFrom (inComment : Bool) : List Char → Option Char
  | [] => none
  | c :: rest =>
    if isBlank c then peekSpaceFrom inComment rest
    else if c = '#' ∧ inComment = false then peekSpaceFrom true rest
    else some c

def peekSpace (spaced : Bool) (text : List Char) : Option Char :=
  if spaced then peekSpaceFrom false text <|> text.head? else text.head?

def takeSpacedFrom (spaced : Bool) (belongs : Char → Bool) (inComment : Bool) :
    List Char → List Char × List Char
  | [] => ([], [])
  | c :: rest =>
    if inComment then takeSpacedFrom spaced belongs (c ≠ '\n') rest
    else if spaced ∧ isBlank c then takeSpacedFrom spaced belongs false rest
    else if spaced ∧ c = '#' then takeSpacedFrom spaced belongs true rest
    else if belongs c then
      let (taken, rest) := takeSpacedFrom spaced belongs false rest
      (c :: taken, rest)
    else ([], c :: rest)

def takeSpaced (spaced : Bool) (belongs : Char → Bool) (text : List Char) : List Char × List Char :=
  takeSpacedFrom spaced belongs false text

def takeExactly (spaced : Bool) (belongs : Char → Bool) : Nat → List Char → Option (List Char × List Char)
  | 0, text => some ([], text)
  | _ + 1, [] => none
  | count + 1, c :: rest =>
    if belongs c then
      (takeExactly spaced belongs count (skipSpace spaced rest)).map fun found =>
        (c :: found.1, found.2)
    else none

end FindQuery.Pattern
