import FindQuery.Number.Basic

namespace FindQuery

structure Numeral where
  negative : Bool
  whole : List Nat
  fraction : List Nat
  exponent : Option Int
  deriving DecidableEq, Repr

namespace Numeral

def digitValue (c : Char) : Nat := c.toNat - '0'.toNat

def digitValues (digits : List Char) : List Nat := digits.map digitValue

def natValue (digits : List Nat) : Nat := digits.foldl (fun value digit => value * 10 + digit) 0

def exponentPart? : List Char → Option (Option Int)
  | [] => some none
  | mark :: rest =>
    if mark = 'e' ∨ mark = 'E' then
      let (negative, digits) := match rest with
        | '-' :: digits => (true, digits)
        | '+' :: digits => (false, digits)
        | digits => (false, digits)
      if digits.isEmpty || !digits.all Char.isDigit then none
      else
        let value : Int := natValue (digitValues digits)
        some (some (if negative then -value else value))
    else none

def fractionPart? (text : List Char) : Option (List Char × Option Int) :=
  match text with
  | '.' :: rest =>
    let digits := rest.takeWhile Char.isDigit
    if digits.isEmpty then none
    else (exponentPart? (rest.dropWhile Char.isDigit)).map (digits, ·)
  | _ => (exponentPart? text).map ([], ·)

/-- Whole digits are needed, and zero leads only where it is the only one. -/
def wholeIsProper : List Char → Bool
  | [] => false
  | ['0'] => true
  | first :: _ => first ≠ '0'

def unsigned? (negative : Bool) (text : List Char) : Option Numeral :=
  let whole := text.takeWhile Char.isDigit
  if wholeIsProper whole then
    (fractionPart? (text.dropWhile Char.isDigit)).map fun (fraction, exponent) =>
      ⟨negative, digitValues whole, digitValues fraction, exponent⟩
  else none

def ofChars? : List Char → Option Numeral
  | '-' :: text => unsigned? true text
  | text => unsigned? false text

/-- Appends digits to a significand while it stays below 64 bits; the second component holds the
digits left over. -/
def gather (significand : Nat) : List Nat → Nat × List Nat
  | [] => (significand, [])
  | digit :: rest =>
    if significand * 10 + digit < integerLimit then gather (significand * 10 + digit) rest
    else (significand, digit :: rest)

/-- The binary64 number that is written. Whole digits left over count as zeros, and those of the fraction
are dropped. -/
def real? (numeral : Numeral) : Option Number :=
  let (significand, wholeLeft) := gather 0 numeral.whole
  let (significand, fractionLeft) := gather significand numeral.fraction
  let exponent : Int :=
    wholeLeft.length - (numeral.fraction.length - fractionLeft.length : Nat) + numeral.exponent.getD 0
  (Binary64.scaled? significand exponent).map fun x => .real (x.withSign numeral.negative)

def isWhole (numeral : Numeral) : Bool := numeral.fraction.isEmpty && numeral.exponent.isNone

/-- The number that is written: an integer where there is neither fraction nor exponent and 64 bits hold
it, else a binary64 number. Negative zero is a binary64 number. None where it is beyond the finite ones. -/
def number? (numeral : Numeral) : Option Number :=
  if numeral.isWhole then
    let magnitude : Int := natValue numeral.whole
    if numeral.negative then
      if magnitude = 0 then numeral.real? else Number.integer? (-magnitude) <|> numeral.real?
    else Number.integer? magnitude <|> numeral.real?
  else numeral.real?

end Numeral

end FindQuery
