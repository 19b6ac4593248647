namespace FindQuery.Text

def hexDigit? (c : Char) : Option Nat :=
  if '0' ≤ c ∧ c ≤ '9' then some (c.toNat - '0'.toNat)
  else if 'a' ≤ c ∧ c ≤ 'f' then some (c.toNat - 'a'.toNat + 10)
  else if 'A' ≤ c ∧ c ≤ 'F' then some (c.toNat - 'A'.toNat + 10)
  else none

def hexNumber? (digits : List Char) : Option Nat :=
  digits.foldlM (fun value c => (hexDigit? c).map (value * 16 + ·)) 0

def hexText (value : Nat) : List Char := Nat.toDigits 16 value

def hexByte (byte : Nat) : List Char :=
  [(Nat.digitChar (byte / 16 % 16)).toUpper, (Nat.digitChar (byte % 16)).toUpper]

def utf8 (text : String) : List UInt8 := text.toList.flatMap String.utf8EncodeChar

namespace Percent

/-- Letters, digits and four marks stand for themselves. -/
def isUnreserved (byte : UInt8) : Bool :=
  let c := Char.ofNat byte.toNat
  byte < 0x80 && (c.isAlphanum || c = '-' || c = '_' || c = '.' || c = '~')

def escape (byte : UInt8) : List Char := '%' :: hexByte byte.toNat

def encodeByte (byte : UInt8) : List Char :=
  if isUnreserved byte then [Char.ofNat byte.toNat] else escape byte

def encode (text : String) : List Char := (utf8 text).flatMap encodeByte

/-- The bytes that a segment stands for. Two hexadecimal digits follow each percent sign. -/
def decode? : List Char → Option (List UInt8)
  | [] => some []
  | '%' :: high :: low :: rest =>
    (hexDigit? high).bind fun high =>
      (hexDigit? low).bind fun low =>
        (decode? rest).map (UInt8.ofNat (high * 16 + low) :: ·)
  | c :: rest =>
    if c.toNat < 0x80 ∧ c ≠ '%' then (decode? rest).map (UInt8.ofNat c.toNat :: ·) else none

end Percent

end FindQuery.Text
