/-!
# Decimal numerals

Settings, paging parameters and port numbers are unsigned decimals with an
upper bound.  Any number of leading zeros is allowed; blanks, signs other than
one leading plus, and values above the bound are not.
-/

namespace ServiceGroups

namespace Text

def digitValue? (char : Char) : Option Nat :=
  if '0' ≤ char ∧ char ≤ '9' then some (char.toNat - '0'.toNat) else none

def decimal? (digits : List Char) : Option Nat :=
  if digits.isEmpty then none
  else digits.foldlM (fun value char => (digitValue? char).map (10 * value + ·)) 0

/-- A decimal of at most `bound`, after an optional plus sign. -/
def boundedDecimal? (bound : Nat) (text : String) : Option Nat :=
  let digits :=
    match text.toList with
    | '+' :: rest => rest
    | plain => plain
  (decimal? digits).filter (· ≤ bound)

def word64? (text : String) : Option UInt64 :=
  (boundedDecimal? (Nat.pow 2 64 - 1) text).map UInt64.ofNat

def word32? (text : String) : Option UInt32 :=
  (boundedDecimal? (Nat.pow 2 32 - 1) text).map UInt32.ofNat

def decimalText (value : Nat) : String :=
  String.ofList (Nat.toDigits 10 value)

/-- The last `width` decimal digits of a number. -/
def decimalFixed : (width : Nat) → Nat → List Char
  | 0, _ => []
  | width + 1, value =>
    decimalFixed width (value / 10) ++ [Char.ofNat ('0'.toNat + value % 10)]

/-- A number in decimal, with zeros in front up to the given width. -/
def decimalPadded (width value : Nat) : List Char :=
  let digits := Nat.toDigits 10 value
  List.replicate (width - digits.length) '0' ++ digits

end Text

end ServiceGroups
