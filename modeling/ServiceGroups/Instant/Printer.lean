import ServiceGroups.Instant.Basic
import ServiceGroups.Text.Numeral

/-!
# Written instants

An instant is written in universal time with a trailing `Z`.  The fraction has
none, three, six or nine digits, the fewest that are exact; a year outside the
four-digit range carries its sign.
-/

namespace ServiceGroups

namespace Instant

/-- A year: four digits, or a sign and at least four digits. -/
def yearText (year : Int) : List Char :=
  if 0 ≤ year ∧ year ≤ 9999 then Text.decimalFixed 4 year.toNat
  else (if year < 0 then '-' else '+') :: Text.decimalPadded 4 year.natAbs

/-- The shortest exact fraction of a second among 0, 3, 6 and 9 digits. -/
def fractionText (nanos : Nat) : List Char :=
  if nanos = 0 then []
  else if nanos % 1000000 = 0 then '.' :: Text.decimalFixed 3 (nanos / 1000000)
  else if nanos % 1000 = 0 then '.' :: Text.decimalFixed 6 (nanos / 1000)
  else '.' :: Text.decimalFixed 9 nanos

def text (instant : Instant) : String :=
  let date := Calendar.dateOf (instant.seconds / 86400)
  let secondOfDay := (instant.seconds % 86400).toNat
  let leap := 1000000000 ≤ instant.nanos
  let second := secondOfDay % 60 + (if leap then 1 else 0)
  let fraction := if leap then instant.nanos - 1000000000 else instant.nanos
  let two := Text.decimalFixed 2
  String.ofList (yearText date.year ++ '-' :: two date.month ++ '-' :: two date.day ++
    'T' :: two (secondOfDay / 3600) ++ ':' :: two (secondOfDay / 60 % 60) ++
    ':' :: two second ++ fractionText fraction ++ ['Z'])

end Instant

end ServiceGroups
