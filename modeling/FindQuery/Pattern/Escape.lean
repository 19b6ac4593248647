import FindQuery.Pattern.Node
import FindQuery.Pattern.Spacing
import FindQuery.Text.Escapes

namespace FindQuery.Pattern

open FindQuery.Text

inductive Primitive where
  | literal (item : Literal)
  | assertion (kind : Assertion)
  | dot
  | escapeClass (kind : EscapeClass) (negated : Bool)
  | property (query : PropertyQuery) (negated : Bool)

def Primitive.node : Primitive → Node
  | .literal item => .literal item
  | .assertion kind => .assertion kind
  | .dot => .dot
  | .escapeClass kind negated => .escapeClass kind negated
  | .property query negated => .property query negated

def Primitive.classItem? : Primitive → Option ClassSet
  | .literal item => some (.literal item)
  | .escapeClass kind negated => some (.escapeClass kind negated)
  | .property query negated => some (.property query negated)
  | .assertion _ | .dot => none

def plainLiteral (c : Char) : Primitive := .literal ⟨c, false⟩

def isHexDigit (c : Char) : Bool := (hexDigit? c).isSome

def hexChar? (digits : List Char) : Option Char :=
  (hexNumber? digits).bind fun value => if value.isValidChar then some (Char.ofNat value) else none

/-- The digits of `\x`, `\u` and `\U`: a fixed number of them, or any number in braces. -/
def hexLiteral? (spaced : Bool) (width : Nat) (text : List Char) : Option (Primitive × List Char) :=
  match skipSpace spaced text with
  | [] => none
  | '{' :: rest =>
    match takeSpaced spaced isHexDigit rest with
    | ([], _) => none
    | (digits, '}' :: rest) =>
      (hexChar? digits).map fun c => (plainLiteral c, skipSpace spaced rest)
    | _ => none
  | rest =>
    (takeExactly spaced isHexDigit width rest).bind fun (digits, rest) =>
      (hexChar? digits).map fun c => (.literal ⟨c, width = 2⟩, rest)

def splitAt? (separator : List Char) : List Char → Option (List Char × List Char)
  | [] => none
  | c :: rest =>
    if separator.isPrefixOf (c :: rest) then some ([], (c :: rest).drop separator.length)
    else (splitAt? separator rest).map fun parts => (c :: parts.1, parts.2)

/-- Reads the text between the braces of a property: `name`, `name=value`, `name:value` or
`name!=value`. The second component says whether the set is inverted. -/
def propertyQuery (text : List Char) : PropertyQuery × Bool :=
  match splitAt? ['!', '='] text with
  | some (property, value) => (.valued property value, true)
  | none =>
    match splitAt? [':'] text with
    | some (property, value) => (.valued property value, false)
    | none =>
      match splitAt? ['='] text with
      | some (property, value) => (.valued property value, false)
      | none => (.named text, false)

def property? (spaced negated : Bool) (text : List Char) : Option (Primitive × List Char) :=
  match skipSpace spaced text with
  | [] => none
  | '{' :: rest =>
    match takeSpaced spaced (· ≠ '}') rest with
    | (query, '}' :: rest) =>
      let (query, inverted) := propertyQuery query
      some (.property query (negated != inverted), rest)
    | _ => none
  | c :: rest =>
    if c = '\\' then none else some (.property (.named [c]) negated, skipSpace spaced rest)

def isMeta (c : Char) : Bool := "\\.+*?()|[]\x7b\x7d^$#&-~".toList.contains c

def isEscapable (c : Char) : Bool :=
  isMeta c || (c.toNat < 0x80 && !c.isAlphanum && c ≠ '<' && c ≠ '>')

def isBoundaryLetter (c : Char) : Bool := c.isAlpha || c = '-'

def namedBoundary? (name : List Char) : Option Assertion :=
  if name = "start".toList then some .wordStart
  else if name = "end".toList then some .wordEnd
  else if name = "start-half".toList then some .wordStartHalf
  else if name = "end-half".toList then some .wordEndHalf
  else none

/-- What follows `\b`: a kind of boundary in braces, or nothing that belongs to it. Braces that open
with anything but a letter or a hyphen are a counted repetition of the boundary. -/
def boundary? (spaced : Bool) (text : List Char) : Option (Assertion × List Char) :=
  match text with
  | '{' :: rest =>
    match skipSpace spaced rest with
    | [] => none
    | c :: more =>
      if isBoundaryLetter c then
        match takeSpaced spaced isBoundaryLetter (c :: more) with
        | (name, '}' :: rest) => (namedBoundary? name).map (·, rest)
        | _ => none
      else some (.wordBoundary, text)
  | _ => some (.wordBoundary, text)

/-- Reads what stands after a backslash. Digits, which would refer back to a group, are refused, and so
is every letter without a meaning. -/
def escape? (spaced : Bool) : List Char → Option (Primitive × List Char)
  | [] => none
  | c :: rest =>
    match c with
    | 'x' => hexLiteral? spaced 2 rest
    | 'u' => hexLiteral? spaced 4 rest
    | 'U' => hexLiteral? spaced 8 rest
    | 'p' => property? spaced false rest
    | 'P' => property? spaced true rest
    | 'd' => some (.escapeClass .digit false, rest)
    | 'D' => some (.escapeClass .digit true, rest)
    | 's' => some (.escapeClass .space false, rest)
    | 'S' => some (.escapeClass .space true, rest)
    | 'w' => some (.escapeClass .word false, rest)
    | 'W' => some (.escapeClass .word true, rest)
    | 'a' => some (plainLiteral '\x07', rest)
    | 'f' => some (plainLiteral '\x0c', rest)
    | 't' => some (plainLiteral '\t', rest)
    | 'n' => some (plainLiteral '\n', rest)
    | 'r' => some (plainLiteral '\r', rest)
    | 'v' => some (plainLiteral '\x0b', rest)
    | 'A' => some (.assertion .textStart, rest)
    | 'z' => some (.assertion .textEnd, rest)
    | 'b' => (boundary? spaced rest).map fun found => (.assertion found.1, found.2)
    | 'B' => some (.assertion .notWordBoundary, rest)
    | '<' => some (.assertion .wordStart, rest)
    | '>' => some (.assertion .wordEnd, rest)
    | _ => if isEscapable c then some (plainLiteral c, rest) else none

def primitive? (spaced : Bool) : List Char → Option (Primitive × List Char)
  | [] => none
  | '\\' :: rest => escape? spaced rest
  | '.' :: rest => some (.dot, rest)
  | '^' :: rest => some (.assertion .lineStart, rest)
  | '$' :: rest => some (.assertion .lineEnd, rest)
  | c :: rest => some (plainLiteral c, rest)

end FindQuery.Pattern
