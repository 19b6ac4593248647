import FindQuery.Number.Numeral
import FindQuery.Text.Escapes

namespace FindQuery.Json

/-- A part of a string: a character, or a 16-bit unit that an escape names by its number. -/
inductive Piece where
  | char (c : Char)
  | unit (value : Nat)
  deriving DecidableEq, Repr

inductive Token where
  | openArray
  | closeArray
  | openObject
  | closeObject
  | comma
  | colon
  | null
  | bool (value : Bool)
  | numeral (written : Numeral)
  | text (pieces : List Piece)
  deriving DecidableEq, Repr

/-- What the scanner is inside of. What has been read of it is held in reverse. -/
inductive ScanMode where
  | between
  | word (letters : List Char)
  | numeral (chars : List Char)
  | text (pieces : List Piece)
  | escape (pieces : List Piece)
  /-- Digits of a unit: how many have been read, and their value. -/
  | unit (pieces : List Piece) (digits value : Nat)
  deriving DecidableEq, Repr

structure Scanner where
  mode : ScanMode
  tokens : List Token
  deriving DecidableEq, Repr

namespace Scanner

def start : Scanner := ⟨.between, []⟩

def isSpace (c : Char) : Bool := c = ' ' || c = '\t' || c = '\n' || c = '\r'

def isWordChar (c : Char) : Bool := 'a' ≤ c && c ≤ 'z'

def isNumeralChar (c : Char) : Bool :=
  c.isDigit || c = '+' || c = '-' || c = '.' || c = 'e' || c = 'E'

def wordToken? (letters : List Char) : Option Token :=
  if letters = ['n', 'u', 'l', 'l'] then some .null
  else if letters = ['t', 'r', 'u', 'e'] then some (.bool true)
  else if letters = ['f', 'a', 'l', 's', 'e'] then some (.bool false)
  else none

def begin? (tokens : List Token) (c : Char) : Option Scanner :=
  if isSpace c then some ⟨.between, tokens⟩
  else if c = '[' then some ⟨.between, .openArray :: tokens⟩
  else if c = ']' then some ⟨.between, .closeArray :: tokens⟩
  else if c = '\x7b' then some ⟨.between, .openObject :: tokens⟩
  else if c = '\x7d' then some ⟨.between, .closeObject :: tokens⟩
  else if c = ',' then some ⟨.between, .comma :: tokens⟩
  else if c = ':' then some ⟨.between, .colon :: tokens⟩
  else if c = '"' then some ⟨.text [], tokens⟩
  else if c = '-' || c.isDigit then some ⟨.numeral [c], tokens⟩
  else if isWordChar c then some ⟨.word [c], tokens⟩
  else none

def escaped? (c : Char) : Option Char :=
  if c = '"' || c = '\\' || c = '/' then some c
  else if c = 'b' then some '\x08'
  else if c = 'f' then some '\x0c'
  else if c = 'n' then some '\n'
  else if c = 'r' then some '\r'
  else if c = 't' then some '\t'
  else none

def flush? (scanner : Scanner) : Option (List Token) :=
  match scanner.mode with
  | .between => some scanner.tokens
  | .word letters => (wordToken? letters.reverse).map (· :: scanner.tokens)
  | .numeral chars => (Numeral.ofChars? chars.reverse).map fun n => .numeral n :: scanner.tokens
  | _ => none

def step? (scanner : Scanner) (c : Char) : Option Scanner :=
  match scanner.mode with
  | .between => begin? scanner.tokens c
  | .word letters =>
    if isWordChar c then some ⟨.word (c :: letters), scanner.tokens⟩
    else scanner.flush?.bind (begin? · c)
  | .numeral chars =>
    if isNumeralChar c then some ⟨.numeral (c :: chars), scanner.tokens⟩
    else scanner.flush?.bind (begin? · c)
  | .text pieces =>
    if c = '"' then some ⟨.between, .text pieces.reverse :: scanner.tokens⟩
    else if c = '\\' then some ⟨.escape pieces, scanner.tokens⟩
    else if c.toNat < 0x20 then none
    else some ⟨.text (.char c :: pieces), scanner.tokens⟩
  | .escape pieces =>
    if c = 'u' then some ⟨.unit pieces 0 0, scanner.tokens⟩
    else (escaped? c).map fun c => ⟨.text (.char c :: pieces), scanner.tokens⟩
  | .unit pieces digits value =>
    (Text.hexDigit? c).map fun digit =>
      if digits = 3 then ⟨.text (.unit (value * 16 + digit) :: pieces), scanner.tokens⟩
      else ⟨.unit pieces (digits + 1) (value * 16 + digit), scanner.tokens⟩

def run? (scanner : Scanner) (text : List Char) : Option Scanner := text.foldlM step? scanner

end Scanner

def scan? (text : List Char) : Option (List Token) :=
  ((Scanner.start.run? text).bind Scanner.flush?).map List.reverse

end FindQuery.Json
