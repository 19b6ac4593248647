import FindQuery.Text.Escapes

namespace FindQuery.Unicode

structure CodeRange where
  first : Nat
  last : Nat
  deriving DecidableEq, Repr

def lastCodePoint : Nat := 0x10FFFF

/-- A set of code points: disjoint ranges in ascending order, no two of them adjacent. -/
structure CodeSet where
  ranges : List CodeRange
  deriving DecidableEq, Repr

namespace CodeSet

def empty : CodeSet := ⟨[]⟩

def full : CodeSet := ⟨[⟨0, lastCodePoint⟩]⟩

def isEmpty (set : CodeSet) : Bool := set.ranges.isEmpty

def contains (set : CodeSet) (point : Nat) : Bool :=
  set.ranges.any fun range => range.first ≤ point && point ≤ range.last

/-- Joins each range to the one before it where they touch. The ranges ascend by their first point. -/
def joinFrom (current : CodeRange) : List CodeRange → List CodeRange
  | [] => [current]
  | next :: rest =>
    if next.first ≤ current.last + 1 then joinFrom ⟨current.first, max current.last next.last⟩ rest
    else current :: joinFrom next rest

def join : List CodeRange → List CodeRange
  | [] => []
  | first :: rest => joinFrom first rest

def ofRanges (ranges : List CodeRange) : CodeSet :=
  ⟨join (ranges.mergeSort fun a b => a.first ≤ b.first)⟩

def ofPoints (points : List Nat) : CodeSet := ofRanges (points.map fun point => ⟨point, point⟩)

def single (point : Nat) : CodeSet := ⟨[⟨point, point⟩]⟩

def range (first last : Nat) : CodeSet := ⟨[⟨first, last⟩]⟩

def union (a b : CodeSet) : CodeSet := ofRanges (a.ranges ++ b.ranges)

def unionAll (sets : List CodeSet) : CodeSet := ofRanges (sets.flatMap ranges)

def gapsFrom (next : Nat) : List CodeRange → List CodeRange
  | [] => if next ≤ lastCodePoint then [⟨next, lastCodePoint⟩] else []
  | range :: rest =>
    if next < range.first then ⟨next, range.first - 1⟩ :: gapsFrom (range.last + 1) rest
    else gapsFrom (range.last + 1) rest

def complement (set : CodeSet) : CodeSet := ⟨gapsFrom 0 set.ranges⟩

def inter (a b : CodeSet) : CodeSet := (a.complement.union b.complement).complement

def diff (a b : CodeSet) : CodeSet := (a.complement.union b).complement

def symmDiff (a b : CodeSet) : CodeSet := (a.union b).diff (a.inter b)

def isWithin (set : CodeSet) (bound : Nat) : Bool := set.ranges.all (·.last ≤ bound)

def single? (set : CodeSet) : Option Nat :=
  match set.ranges with
  | [range] => if range.first = range.last then some range.first else none
  | _ => none

end CodeSet

def words (line : String) : List String := line.splitOn " "

def hexValue (digits : String) : Nat := (Text.hexNumber? digits.toList).getD 0

/-- Reads `41-5A` as a range and `41` as a single point. -/
def CodeRange.ofHex (word : String) : CodeRange :=
  match word.splitOn "-" with
  | [first, last] => ⟨hexValue first, hexValue last⟩
  | _ => ⟨hexValue word, hexValue word⟩

def CodeSet.ofHex (lines : List String) : CodeSet :=
  ⟨(lines.flatMap words).map CodeRange.ofHex⟩

def surrogates : CodeSet := .range 0xD800 0xDFFF

end FindQuery.Unicode
