/-!
# Hexadecimal digits

Identifiers, escapes and percent codes are written in base sixteen.  Reading
takes either case; writing takes one case and never pads by itself.
-/

namespace ServiceGroups

namespace Text

def hexValue? (char : Char) : Option Nat :=
  if '0' ≤ char ∧ char ≤ '9' then some (char.toNat - '0'.toNat)
  else if 'a' ≤ char ∧ char ≤ 'f' then some (char.toNat - 'a'.toNat + 10)
  else if 'A' ≤ char ∧ char ≤ 'F' then some (char.toNat - 'A'.toNat + 10)
  else none

def hexDigit (value : Nat) : Char :=
  Char.ofNat (if value < 10 then '0'.toNat + value else 'a'.toNat + (value - 10))

def hexDigitUpper (value : Nat) : Char :=
  Char.ofNat (if value < 10 then '0'.toNat + value else 'A'.toNat + (value - 10))

/-- The value of a string of hexadecimal digits, read from the left. -/
def hexNumber? (digits : List Char) : Option Nat :=
  digits.foldlM (fun value char => (hexValue? char).map (16 * value + ·)) 0

/-- The last `width` lower-case hexadecimal digits of a number. -/
def hexFixed : (width : Nat) → Nat → List Char
  | 0, _ => []
  | width + 1, value => hexFixed width (value / 16) ++ [hexDigit (value % 16)]

/-- The lower-case hexadecimal digits of a number, without leading zeros. -/
def hexText (value : Nat) : List Char :=
  Nat.toDigits 16 value

end Text

end ServiceGroups
