/-!
# The range of numbers

A decimal with a point or an exponent stands for a double.  Its digits are
gathered into a 64-bit significand as far as they fit; the significand and the
power of ten that scales it are rounded to the nearest doubles, and the two are
multiplied.  A decimal whose product lies beyond the largest double has no
value, even where the decimal itself does not.
-/

namespace ServiceGroups

namespace Json

def isDigit (char : Char) : Bool :=
  '0' ≤ char && char ≤ '9'

def digitValue (char : Char) : Nat :=
  char.toNat - '0'.toNat

def digitsValue (digits : List Char) : Nat :=
  digits.foldl (fun sum char => 10 * sum + digitValue char) 0

namespace Magnitude

/-- Append digits to a significand until the next one would leave 64 bits: the
significand, and the digits that are left. -/
def gather : Nat → List Char → Nat × List Char
  | significand, [] => (significand, [])
  | significand, digit :: rest =>
    let extended := 10 * significand + digitValue digit
    if extended < Nat.pow 2 64 then gather extended rest else (significand, digit :: rest)

/-- The size of an exponent; sizes of more than eighteen digits are all alike,
being far out of range. -/
def exponentSize (digits : List Char) : Nat :=
  let significant := digits.dropWhile (· == '0')
  if significant.length ≤ 18 then digitsValue significant else Nat.pow 10 18

/-- The exponent that is written after the mantissa, as the characters after
its letter. -/
def writtenExponent (text : List Char) : Int :=
  let size : Int := exponentSize (text.filter isDigit)
  if text.head? = some '-' then -size else size

/-- The significand of a decimal and the power of ten that scales it.  Digits
of the whole part that do not fit raise the power by one each, and digits of the
fraction that fit lower it. -/
def scaled (spelling : List Char) : Nat × Int :=
  let mantissa := spelling.takeWhile fun char => char != 'e' && char != 'E'
  let exponent := writtenExponent ((spelling.drop mantissa.length).drop 1)
  let whole := (mantissa.takeWhile (· != '.')).filter isDigit
  let fraction := (mantissa.dropWhile (· != '.')).filter isDigit
  let (significand, wholeLeft) := gather 0 whole
  let (significand, fractionLeft) := gather significand fraction
  let taken : Int := fraction.length - fractionLeft.length
  (significand, exponent + wholeLeft.length - taken)

/-- The nearest number of at most 53 significant bits; of two that are equally
near, the one with an even significand. -/
def nearest (value : Nat) : Nat :=
  let unit := Nat.pow 2 (value.log2 - 52)
  let quotient := value / unit
  let excess := 2 * (value % unit)
  let isUp := unit < excess || (excess == unit && quotient % 2 == 1)
  (if isUp then quotient + 1 else quotient) * unit

/-- The least number that rounds beyond the largest double. -/
def doubleLimit : Nat :=
  Nat.pow 2 1024 - Nat.pow 2 970

/-- The largest power of ten that is a double. -/
def largestPower : Nat :=
  308

/-- Does the decimal have a double?  Only a positive power of ten can lead out
of range. -/
def isDouble (spelling : List Char) : Bool :=
  let (significand, exponent) := scaled spelling
  if significand == 0 || exponent < 0 then true
  else if (largestPower : Int) < exponent then false
  else nearest significand * nearest (Nat.pow 10 exponent.toNat) < doubleLimit

end Magnitude

end Json

end ServiceGroups
