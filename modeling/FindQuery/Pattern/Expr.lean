import FindQuery.Pattern.Node
import FindQuery.Unicode.CodeSet

namespace FindQuery.Pattern

open FindQuery.Unicode

def total (parts : List Nat) : Nat := parts.foldl (· + ·) 0

inductive Look where
  | textStart
  | textEnd
  | lineStart (crlf : Bool)
  | lineEnd (crlf : Bool)
  | word (boundary : Assertion) (unicode : Bool)
  deriving DecidableEq, Repr

inductive Expr where
  | empty
  | literal (chars : List Char)
  | charClass (unicode : Bool) (set : CodeSet)
  | look (look : Look)
  | repetition (sub : Expr) (least : Nat) (most : Option Nat) (greedy : Bool)
  | capture (index : Nat) (sub : Expr)
  | concat (subs : List Expr)
  | alternation (subs : List Expr)

namespace Expr

mutual

def beq : Expr → Expr → Bool
  | .empty, .empty => true
  | .literal a, .literal b => a == b
  | .charClass u a, .charClass v b => u == v && a == b
  | .look a, .look b => a == b
  | .repetition a l m g, .repetition b l' m' g' => l == l' && m == m' && g == g' && beq a b
  | .capture i a, .capture j b => i == j && beq a b
  | .concat a, .concat b => beqList a b
  | .alternation a, .alternation b => beqList a b
  | _, _ => false

def beqList : List Expr → List Expr → Bool
  | [], [] => true
  | a :: rest, b :: rest' => beq a b && beqList rest rest'
  | _, _ => false

end

instance : BEq Expr := ⟨beq⟩

mutual

def count : Expr → Nat
  | .repetition sub _ _ _ => sub.count + 1
  | .capture _ sub => sub.count + 1
  | .concat subs => countList subs + 1
  | .alternation subs => countList subs + 1
  | _ => 1

def countList : List Expr → Nat
  | [] => 0
  | sub :: rest => sub.count + countList rest

end

def charWidth (point : Nat) : Nat :=
  if point < 0x80 then 1 else if point < 0x800 then 2 else if point < 0x10000 then 3 else 4

mutual

def shortest? : Expr → Option Nat
  | .empty => some 0
  | .literal chars => some (total (chars.map Char.utf8Size))
  | .charClass _ set => set.ranges.head?.map (charWidth ·.first)
  | .look _ => some 0
  | .repetition sub least _ _ => sub.shortest?.map (· * least)
  | .capture _ sub => sub.shortest?
  | .concat subs => (shortestList? subs).map total
  | .alternation subs => (shortestList? subs).bind List.min?

def shortestList? : List Expr → Option (List Nat)
  | [] => some []
  | sub :: rest => sub.shortest?.bind fun n => (shortestList? rest).map (n :: ·)

end

mutual

def longest? : Expr → Option Nat
  | .empty => some 0
  | .literal chars => some (total (chars.map Char.utf8Size))
  | .charClass _ set => set.ranges.getLast?.map (charWidth ·.last)
  | .look _ => some 0
  | .repetition sub _ most _ => most.bind fun most => sub.longest?.map (· * most)
  | .capture _ sub => sub.longest?
  | .concat subs => (longestList? subs).map total
  | .alternation subs => (longestList? subs).bind List.max?

def longestList? : List Expr → Option (List Nat)
  | [] => some []
  | sub :: rest => sub.longest?.bind fun n => (longestList? rest).map (n :: ·)

end

def isWidthless (expr : Expr) : Bool := expr.longest? == some 0

def takesInput (expr : Expr) : Bool := expr.shortest?.any (0 < ·)

/-- The class of a set. Halves of surrogate pairs are no characters, and one character is a literal. -/
def ofSet (unicode : Bool) (set : CodeSet) : Expr :=
  let set := set.diff surrogates
  match set.single? with
  | some point => .literal [Char.ofNat point]
  | none => .charClass (unicode && !set.isEmpty) set

/-- A repetition. To repeat what takes no input once is to repeat it for ever. -/
def ofRepetition (sub : Expr) (least : Nat) (most : Option Nat) (greedy : Bool) : Expr :=
  let (least, most) :=
    if sub.isWidthless then (min least 1, some (min (most.getD 1) 1)) else (least, most)
  if most = some 0 then .empty
  else if least = 1 ∧ most = some 1 then sub
  else .repetition sub least most greedy

def consJoined (sub : Expr) (rest : List Expr) : List Expr :=
  match sub, rest with
  | .empty, rest => rest
  | .literal chars, .literal more :: rest => .literal (chars ++ more) :: rest
  | sub, rest => sub :: rest

def flattenConcat : List Expr → List Expr
  | [] => []
  | .concat subs :: rest => subs ++ flattenConcat rest
  | sub :: rest => sub :: flattenConcat rest

def ofConcat (subs : List Expr) : Expr :=
  match (flattenConcat subs).foldr consJoined [] with
  | [] => .empty
  | [sub] => sub
  | subs => .concat subs

def flattenAlternation : List Expr → List Expr
  | [] => []
  | .alternation subs :: rest => subs ++ flattenAlternation rest
  | sub :: rest => sub :: flattenAlternation rest

def singleChar? : Expr → Option Char
  | .literal [c] => some c
  | _ => none

def classSet? : Expr → Option CodeSet
  | .charClass _ set => some set
  | _ => none

def commonStart : List Expr → List Expr → List Expr
  | a :: rest, b :: rest' => if a == b then a :: commonStart rest rest' else []
  | _, _ => []

def concatItems? : Expr → Option (List Expr)
  | .concat subs => some subs
  | _ => none

/-- An alternation. Branches of one character each make a class, and so do branches that are classes. -/
def ofAlternationWith (fuel : Nat) (subs : List Expr) : Expr :=
  match flattenAlternation subs with
  | [] => .charClass false .empty
  | [sub] => sub
  | first :: rest =>
    let subs := first :: rest
    match subs.mapM singleChar?, subs.mapM classSet?, subs.mapM concatItems?, fuel with
    | some chars, _, _, _ => ofSet true (.ofPoints (chars.map Char.toNat))
    | _, some sets, _, _ => ofSet true (.unionAll sets)
    | _, _, some (items :: branches), fuel + 1 =>
      let shared := branches.foldl commonStart items
      if shared.isEmpty then .alternation subs
      else
        let endings := (items :: branches).map fun branch => ofConcat (branch.drop shared.length)
        ofConcat (shared ++ [ofAlternationWith fuel endings])
    | _, _, _, _ => .alternation subs

/-- What stands before an alternation is taken out of it at most once for each of its nodes. -/
def ofAlternation (subs : List Expr) : Expr := ofAlternationWith (countList subs) subs

end Expr

end FindQuery.Pattern
