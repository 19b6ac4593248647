import FindQuery.Number.Basic
import FindQuery.Number.Shortest

namespace FindQuery

/-- Which magnitudes are written without an exponent: from `10 ^ least` up to below `10 ^ limit`. -/
structure PlainRange where
  least : Int
  limit : Int

def Number.plain : PlainRange := ⟨-5, 16⟩

def zeros (count : Nat) : List Char := List.replicate count '0'

def plainText (digits : List Char) (exponent : Int) : List Char :=
  let point := digits.length + exponent
  if 0 ≤ exponent then digits ++ zeros exponent.toNat ++ ['.', '0']
  else if 0 < point then digits.take point.toNat ++ '.' :: digits.drop point.toNat
  else '0' :: '.' :: zeros (-point).toNat ++ digits

def scientificText (digits : List Char) (magnitude : Int) : List Char :=
  let mantissa := match digits with
    | first :: second :: rest => first :: '.' :: second :: rest
    | single => single
  let sign := if magnitude < 0 then '-' else '+'
  mantissa ++ 'e' :: sign :: Nat.toDigits 10 magnitude.natAbs

def Binary64.magnitudeText (x : Binary64) : List Char :=
  if x.isZero then ['0', '.', '0']
  else
    let decimal := Shortest.ofBinary64 x
    let digits := Nat.toDigits 10 decimal.digits
    let magnitude := digits.length + decimal.exponent - 1
    if Number.plain.least ≤ magnitude ∧ magnitude < Number.plain.limit then
      plainText digits decimal.exponent
    else scientificText digits magnitude

def Number.chars : Number → List Char
  | .integer value _ =>
    if value < 0 then '-' :: Nat.toDigits 10 value.natAbs else Nat.toDigits 10 value.natAbs
  | .real x => if x.negative then '-' :: x.magnitudeText else x.magnitudeText

end FindQuery
