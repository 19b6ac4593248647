import FindQuery.Json.Basic
import FindQuery.Json.Token

namespace FindQuery.Json

inductive Tree where
  | null
  | bool (value : Bool)
  | numeral (written : Numeral)
  | text (pieces : List Piece)
  | array (items : List Tree)
  | object (members : List (List Piece × Tree))

namespace Tree

/-- Where a value stands that is being read: among the items of an array or under a key of an object.
What comes before it is held in reverse. -/
inductive Frame where
  | item (before : List Tree)
  | member (before : List (List Piece × Tree)) (key : List Piece)

inductive Goal where
  | value
  | itemOrClose
  | commaOrCloseArray (items : List Tree)
  | keyOrClose
  | key (members : List (List Piece × Tree))
  | colon (members : List (List Piece × Tree)) (key : List Piece)
  | commaOrCloseObject (members : List (List Piece × Tree))
  | nothing (result : Tree)

structure Builder where
  stack : List Frame
  goal : Goal

def complete (value : Tree) : List Frame → Builder
  | [] => ⟨[], .nothing value⟩
  | .item before :: stack => ⟨stack, .commaOrCloseArray (value :: before)⟩
  | .member before key :: stack => ⟨stack, .commaOrCloseObject ((key, value) :: before)⟩

def beginValue? (stack : List Frame) : Token → Option Builder
  | .null => some (complete .null stack)
  | .bool value => some (complete (.bool value) stack)
  | .numeral written => some (complete (.numeral written) stack)
  | .text pieces => some (complete (.text pieces) stack)
  | .openArray => some ⟨stack, .itemOrClose⟩
  | .openObject => some ⟨stack, .keyOrClose⟩
  | _ => none

def step? (builder : Builder) (token : Token) : Option Builder :=
  match builder.goal, token with
  | .value, token => beginValue? builder.stack token
  | .itemOrClose, .closeArray => some (complete (.array []) builder.stack)
  | .itemOrClose, token => beginValue? (.item [] :: builder.stack) token
  | .commaOrCloseArray items, .comma => some ⟨.item items :: builder.stack, .value⟩
  | .commaOrCloseArray items, .closeArray => some (complete (.array items.reverse) builder.stack)
  | .keyOrClose, .closeObject => some (complete (.object []) builder.stack)
  | .keyOrClose, .text key => some ⟨builder.stack, .colon [] key⟩
  | .key members, .text key => some ⟨builder.stack, .colon members key⟩
  | .colon members key, .colon => some ⟨.member members key :: builder.stack, .value⟩
  | .commaOrCloseObject members, .comma => some ⟨builder.stack, .key members⟩
  | .commaOrCloseObject members, .closeObject =>
    some (complete (.object members.reverse) builder.stack)
  | _, _ => none

def run? (builder : Builder) (tokens : List Token) : Option Builder := tokens.foldlM step? builder

def result? (builder : Builder) : Option Tree :=
  match builder.goal with
  | .nothing result => some result
  | _ => none

def ofTokens? (tokens : List Token) : Option Tree := (run? ⟨[], .value⟩ tokens).bind result?

def ofText? (text : List Char) : Option Tree := (scan? text).bind ofTokens?

end Tree

def isHighSurrogate (unit : Nat) : Bool := 0xD800 ≤ unit && unit ≤ 0xDBFF

def isLowSurrogate (unit : Nat) : Bool := 0xDC00 ≤ unit && unit ≤ 0xDFFF

/-- The characters that the pieces of a string stand for. A high surrogate and the low one after it are
one character; surrogates that are not paired so stand for nothing. -/
def decode? : List Piece → Option (List Char)
  | [] => some []
  | .char c :: rest => (decode? rest).map (c :: ·)
  | .unit high :: .unit low :: rest =>
    if isHighSurrogate high then
      if isLowSurrogate low then
        (decode? rest).map (Char.ofNat (0x10000 + (high - 0xD800) * 0x400 + (low - 0xDC00)) :: ·)
      else none
    else if isLowSurrogate high then none
    else (decode? (.unit low :: rest)).map (Char.ofNat high :: ·)
  | .unit value :: rest =>
    if isHighSurrogate value || isLowSurrogate value then none
    else (decode? rest).map (Char.ofNat value :: ·)

def decodeText? (pieces : List Piece) : Option String := (decode? pieces).map String.ofList

namespace Tree

mutual

/-- The value that a tree denotes, with at most `levels` containers inside one another. A repeated key
stands for its last value, in the place of its first. -/
def json? (levels : Nat) : Tree → Option Json
  | .null => some .null
  | .bool value => some (.bool value)
  | .numeral written => written.number?.map .number
  | .text pieces => (decodeText? pieces).map .string
  | .array items =>
    match levels with
    | 0 => none
    | levels + 1 => (items? levels items).map .array
  | .object members =>
    match levels with
    | 0 => none
    | levels + 1 => (members? levels members).map fun writes => .object (Fields.ofList writes)

def items? (levels : Nat) : List Tree → Option (List Json)
  | [] => some []
  | item :: rest => (json? levels item).bind fun value => (items? levels rest).map (value :: ·)

def members? (levels : Nat) : List (List Piece × Tree) → Option (List (String × Json))
  | [] => some []
  | (key, value) :: rest =>
    (decodeText? key).bind fun key =>
      (json? levels value).bind fun value => (members? levels rest).map ((key, value) :: ·)

end

end Tree

def depthLimit : Nat := 127

def parse? (text : String) : Option Json := (Tree.ofText? text.toList).bind (Tree.json? depthLimit)

end FindQuery.Json
