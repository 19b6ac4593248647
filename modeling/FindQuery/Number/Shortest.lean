import FindQuery.Number.Binary64

namespace FindQuery.Shortest

structure Decimal where
  digits : Nat
  exponent : Int
  deriving DecidableEq, Repr

/-- A positive number with the interval of reals that round to it, all over one denominator. -/
structure Target where
  lower : Nat
  value : Nat
  upper : Nat
  den : Nat
  closed : Bool

/-- Below a power of two the neighbour is only half as far. -/
def target (x : Binary64) : Target :=
  let scale := twoTo x.exponent.toNat
  let below := if x.mantissa = Binary64.fullMantissa ∧ -1074 < x.exponent then 1 else 2
  { lower := (4 * x.mantissa - below) * scale
    value := 4 * x.mantissa * scale
    upper := (4 * x.mantissa + 2) * scale
    den := 4 * twoTo (-x.exponent).toNat
    closed := x.mantissa % 2 = 0 }

def Target.holds (t : Target) (digits : Nat) (exponent : Int) : Bool :=
  let point := digits * tenTo exponent.toNat * t.den
  let scale := tenTo (-exponent).toNat
  if t.closed then t.lower * scale ≤ point && point ≤ t.upper * scale
  else t.lower * scale < point && point < t.upper * scale

def Target.magnitude (t : Target) : Int :=
  if t.den ≤ t.value then ((Nat.toDigits 10 (t.value / t.den)).length : Int) - 1
  else
    let width := (Nat.toDigits 10 (t.den / t.value)).length
    if t.den ≤ t.value * tenTo (width - 1) then 1 - (width : Int) else -(width : Int)

/-- The number on a decimal grid that lies in the interval and nearest to its centre; of two that are
equally near, the even one. -/
def Target.onGrid? (t : Target) (exponent : Int) : Option Nat :=
  let num := t.value * tenTo (-exponent).toNat
  let den := t.den * tenTo exponent.toNat
  let below := num / den
  let twice := 2 * (num % den)
  let nearer :=
    if twice < den then below else if den < twice then below + 1 else below + below % 2
  let other := if nearer = below then below + 1 else below
  if t.holds nearer exponent then some nearer
  else if t.holds other exponent then some other
  else none

def Target.search (t : Target) (magnitude : Int) (digits : Nat) : Nat → Decimal
  | 0 => ⟨(t.value * tenTo (-(magnitude - digits)).toNat) / (t.den * tenTo (magnitude - digits).toNat),
      magnitude - digits⟩
  | tries + 1 =>
    match t.onGrid? (magnitude - digits) with
    | some found => ⟨found, magnitude - digits⟩
    | none => t.search magnitude (digits + 1) tries

def mostDigits : Nat := 17

def Decimal.strip (fuel : Nat) (d : Decimal) : Decimal :=
  match fuel with
  | 0 => d
  | fuel + 1 =>
    if d.digits ≠ 0 ∧ d.digits % 10 = 0 then Decimal.strip fuel ⟨d.digits / 10, d.exponent + 1⟩ else d

/-- The fewest digits that read back as the number, and of those the nearest to it. -/
def ofBinary64 (x : Binary64) : Decimal :=
  let t := target x
  (t.search t.magnitude 0 mostDigits).strip (mostDigits + 1)

end FindQuery.Shortest
