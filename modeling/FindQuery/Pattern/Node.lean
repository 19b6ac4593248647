namespace FindQuery.Pattern

inductive Flag where
  | caseInsensitive
  | multiLine
  | dotAll
  | swapGreed
  | unicode
  | crlf
  | ignoreSpace
  deriving DecidableEq, Repr

structure FlagChange where
  flag : Flag
  enabled : Bool
  deriving DecidableEq, Repr

def flagState? (changes : List FlagChange) (flag : Flag) : Option Bool :=
  (changes.find? (·.flag = flag)).map FlagChange.enabled

inductive Assertion where
  | lineStart
  | lineEnd
  | textStart
  | textEnd
  | wordBoundary
  | notWordBoundary
  | wordStart
  | wordEnd
  | wordStartHalf
  | wordEndHalf
  deriving DecidableEq, Repr

/-- A character that stands for itself. One written as `\x` and two digits may also mean a byte. -/
structure Literal where
  char : Char
  mayBeByte : Bool
  deriving DecidableEq, Repr

inductive EscapeClass where
  | digit
  | space
  | word
  deriving DecidableEq, Repr

inductive AsciiKind where
  | alnum
  | alpha
  | ascii
  | blank
  | cntrl
  | digit
  | graph
  | lower
  | print
  | punct
  | space
  | upper
  | word
  | xdigit
  deriving DecidableEq, Repr

inductive PropertyQuery where
  | named (name : List Char)
  | valued (property value : List Char)
  deriving DecidableEq, Repr

inductive SetOperation where
  | intersection
  | difference
  | symmetricDifference
  deriving DecidableEq, Repr

inductive ClassSet where
  | empty
  | literal (item : Literal)
  | range (first last : Literal)
  | ascii (kind : AsciiKind) (negated : Bool)
  | escapeClass (kind : EscapeClass) (negated : Bool)
  | property (query : PropertyQuery) (negated : Bool)
  | bracketed (negated : Bool) (set : ClassSet)
  | union (items : List ClassSet)
  | binary (operation : SetOperation) (left right : ClassSet)

inductive GroupKind where
  | capturing (index : Nat)
  | plain (changes : List FlagChange)
  deriving DecidableEq, Repr

inductive Node where
  | empty
  | flags (changes : List FlagChange)
  | literal (item : Literal)
  | dot
  | assertion (kind : Assertion)
  | escapeClass (kind : EscapeClass) (negated : Bool)
  | property (query : PropertyQuery) (negated : Bool)
  | bracketed (negated : Bool) (set : ClassSet)
  | repetition (sub : Node) (least : Nat) (most : Option Nat) (greedy : Bool)
  | group (kind : GroupKind) (sub : Node)
  | alternation (subs : List Node)
  | concat (subs : List Node)

namespace ClassSet

def ofItems : List ClassSet → ClassSet
  | [] => .empty
  | [item] => item
  | items => .union items

mutual

def depth : ClassSet → Nat
  | .bracketed _ set => set.depth + 1
  | .union items => depthList items + 1
  | .binary _ left right => max left.depth right.depth + 1
  | _ => 0

def depthList : List ClassSet → Nat
  | [] => 0
  | item :: rest => max item.depth (depthList rest)

end

end ClassSet

namespace Node

def ofConcat : List Node → Node
  | [] => .empty
  | [sub] => sub
  | subs => .concat subs

def ofAlternation : List Node → Node
  | [] => .empty
  | [sub] => sub
  | subs => .alternation subs

mutual

def depth : Node → Nat
  | .bracketed _ set => set.depth + 1
  | .repetition sub _ _ _ => sub.depth + 1
  | .group _ sub => sub.depth + 1
  | .alternation subs => depthList subs + 1
  | .concat subs => depthList subs + 1
  | _ => 0

def depthList : List Node → Nat
  | [] => 0
  | sub :: rest => max sub.depth (depthList rest)

end

end Node

end FindQuery.Pattern
