import ServiceGroups.Instant.Basic
import ServiceGroups.Text.Blank
import ServiceGroups.Text.Numeral

/-!
# Reading instants

An instant is read from a date, a `T` or a space, a time and a zone.  Blanks
may stand before a number, before a separator and around the zone; months,
days and times may have one digit; a signed year may have any number of
digits; and a fraction counts to the nanosecond.  Each step takes characters
from the front and gives what it read with the rest.
-/

namespace ServiceGroups

namespace Instant

/-- A step of reading: a value and the characters after it. -/
abbrev Step (α : Type) :=
  List Char → Option (α × List Char)

def skipBlanks (chars : List Char) : List Char :=
  chars.dropWhile Text.isBlank

def isDecimal (char : Char) : Bool :=
  (Text.digitValue? char).isSome

/-- The digits at the front, at most `width` of them. -/
def frontDigits (width : Nat) (chars : List Char) : List Char :=
  (chars.take width).takeWhile isDecimal

/-- A number of at least one and at most `width` digits. -/
def number (width : Nat) : Step Nat := fun chars =>
  let digits := frontDigits width chars
  (Text.decimal? digits).map fun value => (value, chars.drop digits.length)

def longNumber : Step Nat := fun chars =>
  number chars.length chars

/-- A required character, after blanks. -/
def separator (char : Char) (chars : List Char) : Option (List Char) :=
  match skipBlanks chars with
  | [] => none
  | head :: rest => if head = char then some rest else none

/-- A year: up to four digits, or a sign and any number of digits. -/
def year : Step Int := fun chars =>
  match skipBlanks chars with
  | '-' :: rest => (longNumber rest).map fun read => (-(read.1 : Int), read.2)
  | '+' :: rest => (longNumber rest).map fun read => ((read.1 : Int), read.2)
  | plain => (number 4 plain).map fun read => ((read.1 : Int), read.2)

def twoDigits : Step Nat := fun chars =>
  number 2 (skipBlanks chars)

def date : Step Calendar.Date := fun chars => do
  let (year, chars) ← year chars
  let chars ← separator '-' chars
  let (month, chars) ← twoDigits chars
  let chars ← separator '-' chars
  let (day, chars) ← twoDigits chars
  let date : Calendar.Date := ⟨year, month, day⟩
  if date.isValid then some (date, chars) else none

/-- Nanoseconds after a point; digits beyond the ninth do not count. -/
def fraction : Step Nat := fun chars =>
  match chars with
  | '.' :: rest =>
    let digits := frontDigits 9 rest
    (Text.decimal? digits).map fun value =>
      (value * Nat.pow 10 (9 - digits.length), rest.dropWhile isDecimal)
  | plain => some (0, plain)

/-- Seconds of the day and nanoseconds of a time; second 60 is a leap second. -/
def timeOfDay : Step (Nat × Nat) := fun chars => do
  let (hour, chars) ← twoDigits chars
  let chars ← separator ':' chars
  let (minute, chars) ← twoDigits chars
  let chars ← separator ':' chars
  let (second, chars) ← twoDigits chars
  let (nanos, chars) ← fraction chars
  if hour < 24 ∧ minute < 60 ∧ second ≤ 60 then
    let base := hour * 3600 + minute * 60
    if second = 60 then some ((base + 59, nanos + 1000000000), chars)
    else some ((base + second, nanos), chars)
  else none

def exactlyTwoDigits : Step Nat := fun chars =>
  match chars with
  | tens :: ones :: rest => do
    let upper ← Text.digitValue? tens
    let lower ← Text.digitValue? ones
    some (10 * upper + lower, rest)
  | _ => none

/-- Hours and minutes of an offset, in seconds, below one day. -/
def offsetSize : Step Nat := fun chars => do
  let (hours, chars) ← exactlyTwoDigits chars
  let (minutes, chars) ←
    exactlyTwoDigits (chars.dropWhile fun char => char == ':' || Text.isBlank char)
  if minutes < 60 ∧ hours < 24 then some (hours * 3600 + minutes * 60, chars) else none

/-- The offset of a zone from universal time, in seconds. -/
def zone : Step Int := fun chars =>
  if (chars.take 3).map Char.toUpper = ['U', 'T', 'C'] then some (0, chars.drop 3)
  else
    match chars with
    | 'Z' :: rest | 'z' :: rest => some (0, rest)
    | '+' :: rest => (offsetSize rest).map fun read => ((read.1 : Int), read.2)
    | '-' :: rest | '\u2212' :: rest =>
      (offsetSize rest).map fun read => (-(read.1 : Int), read.2)
    | _ => none

/-- Read an instant; nothing but blanks may follow it. -/
def read? (text : String) : Option Instant := do
  let (date, chars) ← date text.toList
  let chars ←
    match chars with
    | 'T' :: rest | 't' :: rest | ' ' :: rest => some rest
    | _ => none
  let ((secondOfDay, nanos), chars) ← timeOfDay chars
  let (offset, chars) ← zone (skipBlanks chars)
  let startOfDay := Calendar.dayNumber date * 86400
  if chars.all Text.isBlank ∧ earliest ≤ startOfDay ∧ startOfDay ≤ latest then
    ofCounts? (startOfDay + secondOfDay - offset) nanos
  else none

end Instant

end ServiceGroups
