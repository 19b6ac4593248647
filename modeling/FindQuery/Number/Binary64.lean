namespace FindQuery

def twoTo (exponent : Nat) : Nat := Nat.pow 2 exponent

def tenTo (exponent : Nat) : Nat := Nat.pow 10 exponent

def leastInteger : Int := -9223372036854775808

def integerLimit : Nat := 18446744073709551616

def Binary64.fullMantissa : Nat := 4503599627370496

/-- The pairs that write each number in one way: a full mantissa, or the least exponent. -/
def Binary64.Canonical (mantissa : Nat) (exponent : Int) : Prop :=
  mantissa < 2 * fullMantissa ∧ -1074 ≤ exponent ∧ exponent ≤ 971 ∧
    (fullMantissa ≤ mantissa ∨ exponent = -1074)

instance (mantissa : Nat) (exponent : Int) : Decidable (Binary64.Canonical mantissa exponent) := by
  unfold Binary64.Canonical
  infer_instance

/-- The number `mantissa * 2 ^ exponent` with a sign; zero has a sign too. -/
structure Binary64 where
  negative : Bool
  mantissa : Nat
  exponent : Int
  canonical : Binary64.Canonical mantissa exponent := by decide
  deriving DecidableEq

namespace Binary64

def zero : Binary64 := ⟨false, 0, -1074, by decide⟩

def isZero (x : Binary64) : Bool := x.mantissa = 0

def withSign (x : Binary64) (negative : Bool) : Binary64 := { x with negative }

def same (x y : Binary64) : Bool := x = y || (x.isZero && y.isZero)

/-- The integer nearest to a quotient; halves go to the even neighbour. -/
def divideToEven (num den : Nat) : Nat :=
  let quotient := num / den
  let twice := 2 * (num % den)
  if twice < den then quotient
  else if den < twice then quotient + 1
  else quotient + quotient % 2

def floorLog (num den : Nat) : Int :=
  let estimate : Int := (num.log2 : Int) - den.log2
  if den * twoTo estimate.toNat ≤ num * twoTo (-estimate).toNat then estimate else estimate - 1

/-- The number nearest to a quotient. None where that is beyond the finite numbers. -/
def ofRatio? (num den : Nat) : Option Binary64 :=
  if num = 0 then some zero
  else
    let exponent := max (-1074) (floorLog num den - 52)
    let rounded := divideToEven (num * twoTo (-exponent).toNat) (den * twoTo exponent.toNat)
    let (mantissa, exponent) :=
      if rounded = 2 * fullMantissa then (fullMantissa, exponent + 1) else (rounded, exponent)
    if h : Canonical mantissa exponent then some ⟨false, mantissa, exponent, h⟩ else none

def num (x : Binary64) : Nat := x.mantissa * twoTo x.exponent.toNat

def den (x : Binary64) : Nat := twoTo (-x.exponent).toNat

def mul? (x y : Binary64) : Option Binary64 := ofRatio? (x.num * y.num) (x.den * y.den)

def div? (x y : Binary64) : Option Binary64 := ofRatio? (x.num * y.den) (x.den * y.num)

def powerOfTen (exponent : Nat) : Binary64 := (ofRatio? (tenTo exponent) 1).getD zero

def divPowerOfTen (x : Binary64) (exponent : Nat) : Binary64 :=
  (x.div? (powerOfTen exponent)).getD zero

def greatestPowerOfTen : Nat := 308

/-- The magnitude of `significand * 10 ^ exponent`, for a significand of 64 bits: the significand is
rounded first, then multiplied or divided once. A divisor beyond the greatest power of ten takes a second
step, and beyond its square nothing is left. -/
def scaled? (significand : Nat) (exponent : Int) : Option Binary64 :=
  (ofRatio? significand 1).bind fun x =>
    match exponent with
    | .ofNat up =>
      if up ≤ greatestPowerOfTen then x.mul? (powerOfTen up)
      else if x.isZero then some zero
      else none
    | .negSucc n =>
      let down := n + 1
      if down ≤ greatestPowerOfTen then some (x.divPowerOfTen down)
      else if down ≤ 2 * greatestPowerOfTen then
        some ((x.divPowerOfTen greatestPowerOfTen).divPowerOfTen (down - greatestPowerOfTen))
      else some zero

end Binary64

end FindQuery
