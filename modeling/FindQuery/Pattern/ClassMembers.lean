import FindQuery.Pattern.Node
import FindQuery.Unicode.Name

namespace FindQuery.Pattern

open FindQuery.Unicode

structure Flags where
  caseInsensitive : Bool
  multiLine : Bool
  dotAll : Bool
  swapGreed : Bool
  unicode : Bool
  crlf : Bool
  deriving DecidableEq, Repr

def Flags.initial : Flags := ⟨false, false, false, false, true, false⟩

def Flags.set (flags : Flags) (change : FlagChange) : Flags :=
  match change.flag with
  | .caseInsensitive => { flags with caseInsensitive := change.enabled }
  | .multiLine => { flags with multiLine := change.enabled }
  | .dotAll => { flags with dotAll := change.enabled }
  | .swapGreed => { flags with swapGreed := change.enabled }
  | .unicode => { flags with unicode := change.enabled }
  | .crlf => { flags with crlf := change.enabled }
  | .ignoreSpace => flags

def Flags.apply (flags : Flags) (changes : List FlagChange) : Flags := changes.foldl Flags.set flags

def lastAscii : Nat := 0x7F

def AsciiKind.codeSet : AsciiKind → CodeSet
  | .alnum => .ofHex ["30-39 41-5A 61-7A"]
  | .alpha => .ofHex ["41-5A 61-7A"]
  | .ascii => .ofHex ["0-7F"]
  | .blank => .ofHex ["9 20"]
  | .cntrl => .ofHex ["0-1F 7F"]
  | .digit => .ofHex ["30-39"]
  | .graph => .ofHex ["21-7E"]
  | .lower => .ofHex ["61-7A"]
  | .print => .ofHex ["20-7E"]
  | .punct => .ofHex ["21-2F 3A-40 5B-60 7B-7E"]
  | .space => .ofHex ["9-D 20"]
  | .upper => .ofHex ["41-5A"]
  | .word => .ofHex ["30-39 41-5A 5F 61-7A"]
  | .xdigit => .ofHex ["30-39 41-46 61-66"]

def wordCharacters : CodeSet :=
  .unionAll [alphabetic, Category.unionOf (.decimalNumber :: .connectorPunctuation :: Category.marks),
    Listed.joinControl.codeSet]

def EscapeClass.codeSet (unicode : Bool) : EscapeClass → CodeSet
  | .digit => if unicode then Category.decimalNumber.codeSet else AsciiKind.digit.codeSet
  | .space => if unicode then whiteSpace else AsciiKind.space.codeSet
  | .word => if unicode then wordCharacters else AsciiKind.word.codeSet

def foldAsciiPoint (point : Nat) : List Nat :=
  if 0x41 ≤ point ∧ point ≤ 0x5A then [point + 0x20]
  else if 0x61 ≤ point ∧ point ≤ 0x7A then [point - 0x20]
  else []

def foldAscii (set : CodeSet) : CodeSet :=
  set.union (.ofPoints (((List.range 0x80).filter set.contains).flatMap foldAsciiPoint))

namespace Flags

def fold (flags : Flags) (set : CodeSet) : CodeSet :=
  if flags.caseInsensitive then
    if flags.unicode then set.foldClosure else foldAscii set
  else set

/-- Without Unicode a class matches single bytes, and only ASCII bytes are characters by themselves. -/
def checked? (flags : Flags) (set : CodeSet) : Option CodeSet :=
  if flags.unicode || set.isWithin lastAscii then some set else none

def negate? (flags : Flags) (negated : Bool) (set : CodeSet) : Option CodeSet :=
  flags.checked? (if negated then set.complement else set)

/-- Cases are folded before a class is negated. -/
def foldAndNegate? (flags : Flags) (negated : Bool) (set : CodeSet) : Option CodeSet :=
  flags.negate? negated (flags.fold set)

/-- The character that a literal stands for. Without Unicode, two hexadecimal digits mean a byte. -/
def literal? (flags : Flags) (item : Literal) : Option Char :=
  if flags.unicode || !item.mayBeByte || item.char.toNat ≤ lastAscii then some item.char else none

def classLiteral? (flags : Flags) (item : Literal) : Option Nat :=
  (flags.literal? item).bind fun c => if flags.unicode || c.toNat ≤ lastAscii then some c.toNat else none

def escapeClass? (flags : Flags) (kind : EscapeClass) (negated : Bool) : Option CodeSet :=
  flags.negate? negated (kind.codeSet flags.unicode)

def query? : PropertyQuery → Option CodeSet
  | .named name => setNamed? name
  | .valued property value => setValued? property value

def property? (flags : Flags) (query : PropertyQuery) (negated : Bool) : Option CodeSet :=
  if flags.unicode then (query? query).bind (flags.foldAndNegate? negated) else none

end Flags

def SetOperation.apply : SetOperation → CodeSet → CodeSet → CodeSet
  | .intersection, left, right => left.inter right
  | .difference, left, right => left.diff right
  | .symmetricDifference, left, right => left.symmDiff right

mutual

def ClassSet.members? (flags : Flags) : ClassSet → Option CodeSet
  | .empty => some .empty
  | .literal item => (flags.classLiteral? item).map CodeSet.single
  | .range first last =>
    (flags.classLiteral? first).bind fun first =>
      (flags.classLiteral? last).map fun last => CodeSet.range first last
  | .ascii kind negated => flags.foldAndNegate? negated kind.codeSet
  | .escapeClass kind negated => flags.escapeClass? kind negated
  | .property query negated => flags.property? query negated
  | .bracketed negated set => (set.members? flags).bind (flags.foldAndNegate? negated)
  | .union items => (ClassSet.membersList? flags items).map CodeSet.unionAll
  | .binary operation left right =>
    (left.members? flags).bind fun left =>
      (right.members? flags).map fun right => operation.apply (flags.fold left) (flags.fold right)

def ClassSet.membersList? (flags : Flags) : List ClassSet → Option (List CodeSet)
  | [] => some []
  | item :: rest =>
    (item.members? flags).bind fun set => (ClassSet.membersList? flags rest).map (set :: ·)

end

end FindQuery.Pattern
