import FindQuery.Unicode.CodeSet

namespace FindQuery.Pattern

open FindQuery.Unicode

def utf8Bytes (point : Nat) : List Nat :=
  if point < 0x80 then [point]
  else if point < 0x800 then [0xC0 + point / 0x40, 0x80 + point % 0x40]
  else if point < 0x10000 then
    [0xE0 + point / 0x1000, 0x80 + point / 0x40 % 0x40, 0x80 + point % 0x40]
  else
    [0xF0 + point / 0x40000, 0x80 + point / 0x1000 % 0x40, 0x80 + point / 0x40 % 0x40, 0x80 + point % 0x40]

abbrev ByteRow := List CodeRange

def rowOf (first last : Nat) : ByteRow :=
  (utf8Bytes first).zipWith CodeRange.mk (utf8Bytes last)

/-- Splits a range at the limits of blocks of 64 points, of 64 blocks, and so on, from large blocks to
small, so that in each part only trailing bytes that run through all their values follow one that
varies. -/
def splitBlocks : Nat → Nat → Nat → List ByteRow
  | 0, first, last => [rowOf first last]
  | level + 1, first, last =>
    let block := Nat.pow 64 (level + 1)
    if first / block = last / block then splitBlocks level first last
    else
      let lower := (first + block - 1) / block * block
      let upper := (last + 1) / block * block
      (if first < lower then splitBlocks level first (lower - 1) else []) ++
        (if lower < upper then [rowOf lower (upper - 1)] else []) ++
        (if upper ≤ last then splitBlocks level upper last else [])

def encodingRanges : List CodeRange :=
  [⟨0, 0x7F⟩, ⟨0x80, 0x7FF⟩, ⟨0x800, 0xD7FF⟩, ⟨0xE000, 0xFFFF⟩, ⟨0x10000, 0x10FFFF⟩]

def rowsOfRange (range : CodeRange) : List ByteRow :=
  encodingRanges.flatMap fun limits =>
    let first := max range.first limits.first
    let last := min range.last limits.last
    if first ≤ last then splitBlocks ((utf8Bytes last).length - 1) first last else []

def rowsOf (set : CodeSet) : List ByteRow := set.ranges.flatMap rowsOfRange

end FindQuery.Pattern
