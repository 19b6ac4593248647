import FindQuery.Pattern.ByteRanges
import FindQuery.Pattern.Expr.OfNode
import FindQuery.Pattern.Parser

namespace FindQuery.Pattern

open FindQuery.Unicode

/-- Bytes of a state, of each transition of a state with several, and of each branch of a fork. -/
def stateCost : Nat := 32
def transitionCost : Nat := 8
def branchCost : Nat := 4

def forkCost (branches : Nat) : Nat := stateCost + branchCost * branches

def fanCost (transitions : Nat) : Nat := stateCost + transitionCost * transitions

inductive Direction where
  | forward
  | backward
  deriving DecidableEq, Repr

def groupRows : List ByteRow → List (CodeRange × List ByteRow)
  | [] => []
  | [] :: rest => groupRows rest
  | (first :: row) :: rest =>
    match groupRows rest with
    | (next, rows) :: groups =>
      if next = first then (first, row :: rows) :: groups else (first, [row]) :: (next, rows) :: groups
    | [] => [(first, [row])]

def nextRows (sets : List (List ByteRow)) : List (List ByteRow) :=
  ((sets.flatMap groupRows).map Prod.snd |>.filter (· ≠ [[]])).eraseDups

def rowStates (rows : List ByteRow) : List (List ByteRow) :=
  let second := nextRows [rows]
  let third := nextRows second
  let fourth := nextRows third
  ([rows] ++ second ++ third ++ fourth).eraseDups

/-- Forwards, equal sets of endings share their states. -/
def forwardClassCost (rows : List ByteRow) : Nat :=
  stateCost + total ((rowStates rows).map fun rows => fanCost (groupRows rows).length)

def beginnings (previous : ByteRow) : List ByteRow → Nat
  | [] => 0
  | row :: rest =>
    let shared := ((previous.zip row).takeWhile fun pair => pair.1 = pair.2).length
    row.length - shared + beginnings row rest

/-- Backwards, rows share the states of the bytes that they begin with. -/
def backwardClassCost (rows : List ByteRow) : Nat :=
  forkCost rows.length + stateCost + stateCost * beginnings [] rows

def classCost (direction : Direction) (set : CodeSet) : Nat :=
  if set.isWithin 0x7F then stateCost + fanCost set.ranges.length
  else match direction with
    | .forward => forwardClassCost (rowsOf set)
    | .backward => backwardClassCost (rowsOf set)

/-- A tree of the literals of an alternation. A node's edges fall into runs, for a literal that ends in
the node is preferred to those added later. -/
inductive Trie where
  | node (ended : Nat) (edges : List (Nat × Nat × Trie))

namespace Trie

def leaf : Trie := .node 0 []

def adjust (run byte : Nat) (change : Trie → Trie) : List (Nat × Nat × Trie) → List (Nat × Nat × Trie)
  | [] => [(run, byte, change leaf)]
  | (run', byte', next) :: edges =>
    if run' = run ∧ byte' = byte then (run, byte, change next) :: edges
    else (run', byte', next) :: adjust run byte change edges

def insert : List Nat → Trie → Trie
  | [], .node ended edges => if edges.isEmpty ∧ 0 < ended then .node ended edges else .node (ended + 1) edges
  | byte :: bytes, .node ended edges => .node ended (adjust ended byte (insert bytes) edges)

def runCost (edges : Nat) : Nat :=
  if edges = 0 then 0 else if edges = 1 then stateCost + branchCost else fanCost edges + branchCost

mutual

/-- A node is a fork over its runs and the literals that end in it; a node without edges is the end. -/
def cost : Trie → Nat
  | .node ended edges =>
    if edges.isEmpty then 0
    else
      forkCost ended +
        total ((List.range (ended + 1)).map fun run => runCost (edges.countP (·.1 = run))) + costEdges edges

def costEdges : List (Nat × Nat × Trie) → Nat
  | [] => 0
  | (_, _, next) :: edges => next.cost + costEdges edges

end

end Trie

def literalBytes? : Expr → Option (List Nat)
  | .literal chars => some (chars.flatMap fun c => utf8Bytes c.toNat)
  | _ => none

def literalsCost (direction : Direction) (literals : List (List Nat)) : Nat :=
  let inserted := match direction with
    | .forward => literals
    | .backward => literals.map List.reverse
  stateCost + (inserted.foldl (fun trie bytes => trie.insert bytes) Trie.leaf).cost

namespace Expr

def repetitionCost (cost : Nat) (takesInput : Bool) (least : Nat) (most : Option Nat) : Nat :=
  let exactly := if least = 0 then stateCost else least * cost
  match least, most with
  | 0, some 1 => forkCost 2 + cost + stateCost
  | 0, none => if takesInput then forkCost 2 + cost else cost + 2 * forkCost 2 + stateCost
  | _, none => least * cost + forkCost 2
  | _, some most =>
    if least = most then exactly else exactly + stateCost + (most - least) * (forkCost 2 + cost)

mutual

def cost (direction : Direction) : Expr → Nat
  | .empty => stateCost
  | .literal chars => total (chars.map fun c => stateCost * c.utf8Size)
  | .charClass _ set => classCost direction set
  | .look _ => stateCost
  | .repetition sub least most _ => repetitionCost (sub.cost direction) sub.takesInput least most
  | .capture _ sub =>
    match direction with
    | .forward => 2 * stateCost + sub.cost direction
    | .backward => sub.cost direction
  | .concat subs => costList direction subs
  | .alternation subs =>
    match subs.mapM literalBytes? with
    | some literals => literalsCost direction literals
    | none => forkCost subs.length + stateCost + costList direction subs

def costList (direction : Direction) : List Expr → Nat
  | [] => 0
  | sub :: rest => sub.cost direction + costList direction rest

end

mutual

def startsAtStart : Expr → Bool
  | .look .textStart => true
  | .repetition sub least _ _ => 0 < least && sub.startsAtStart
  | .capture _ sub => sub.startsAtStart
  | .concat subs => someStartsAtStart subs
  | .alternation subs => allStartAtStart subs
  | _ => false

def someStartsAtStart : List Expr → Bool
  | [] => false
  | sub :: rest => sub.startsAtStart || (sub.isWidthless && someStartsAtStart rest)

def allStartAtStart : List Expr → Bool
  | [] => true
  | sub :: rest => sub.startsAtStart && allStartAtStart rest

end

mutual

def endsAtEnd : Expr → Bool
  | .look .textEnd => true
  | .repetition sub least _ _ => 0 < least && sub.endsAtEnd
  | .capture _ sub => sub.endsAtEnd
  | .concat subs => someEndsAtEnd subs
  | .alternation subs => allEndAtEnd subs
  | _ => false

def someEndsAtEnd : List Expr → Bool
  | [] => false
  | sub :: rest => someEndsAtEnd rest || (rest.all isWidthless && sub.endsAtEnd)

def allEndAtEnd : List Expr → Bool
  | [] => true
  | sub :: rest => sub.endsAtEnd && allEndAtEnd rest

end

def searchCost (anchored : Bool) : Nat :=
  if anchored then stateCost else forkCost 2 + stateCost + fanCost 1

/-- The bytes of the whole automaton, with the state that a match ends in. -/
def totalCost (direction : Direction) (expr : Expr) : Nat :=
  match direction with
  | .forward => searchCost expr.startsAtStart + 2 * stateCost + expr.cost .forward + stateCost
  | .backward => searchCost expr.endsAtEnd + expr.cost .backward + stateCost

end Expr

def sizeLimit : Nat := 10485760

def Expr.fits (expr : Expr) : Bool :=
  expr.totalCost .forward ≤ sizeLimit && expr.totalCost .backward ≤ sizeLimit

def expr? (pattern : String) : Option Expr :=
  (parse? pattern.toList).bind fun node => (node.expr? Flags.initial).map Prod.fst

def accepts (pattern : String) : Bool := (expr? pattern).any Expr.fits

end FindQuery.Pattern
