/-!
# The civil calendar

Days are counted from the first of January 1970.  The count of a civil date
groups years into eras of 400 years that start in March, so that the leap day
is the last day of a year and every era has the same length.
-/

namespace ServiceGroups

namespace Calendar

/-- A year, a month and a day of the proleptic Gregorian calendar. -/
structure Date where
  year : Int
  month : Nat
  day : Nat
deriving DecidableEq, Repr

def isLeapYear (year : Int) : Bool :=
  year % 4 == 0 && (year % 100 != 0 || year % 400 == 0)

def monthLength (year : Int) (month : Nat) : Nat :=
  match month with
  | 2 => if isLeapYear year then 29 else 28
  | 4 | 6 | 9 | 11 => 30
  | _ => 31

def Date.isValid (date : Date) : Bool :=
  1 ≤ date.month && date.month ≤ 12 && 1 ≤ date.day &&
    date.day ≤ monthLength date.year date.month

/-- The days from the first of January 1970 to a date. -/
def dayNumber (date : Date) : Int :=
  let marchYear : Int := if date.month ≤ 2 then date.year - 1 else date.year
  let marchMonth : Int := if date.month ≤ 2 then date.month + 9 else date.month - 3
  let era := marchYear / 400
  let yearOfEra := marchYear - era * 400
  let dayOfYear := (153 * marchMonth + 2) / 5 + date.day - 1
  let dayOfEra := yearOfEra * 365 + yearOfEra / 4 - yearOfEra / 100 + dayOfYear
  era * 146097 + dayOfEra - 719468

def dateOf (dayNumber : Int) : Date :=
  let shifted := dayNumber + 719468
  let era := shifted / 146097
  let dayOfEra := shifted - era * 146097
  let yearOfEra :=
    (dayOfEra - dayOfEra / 1460 + dayOfEra / 36524 - dayOfEra / 146096) / 365
  let dayOfYear := dayOfEra - (365 * yearOfEra + yearOfEra / 4 - yearOfEra / 100)
  let marchMonth := (5 * dayOfYear + 2) / 153
  let day := dayOfYear - (153 * marchMonth + 2) / 5 + 1
  let month := if marchMonth < 10 then marchMonth + 3 else marchMonth - 9
  let marchYear := yearOfEra + era * 400
  ⟨if month ≤ 2 then marchYear + 1 else marchYear, month.toNat, day.toNat⟩

end Calendar

end ServiceGroups
