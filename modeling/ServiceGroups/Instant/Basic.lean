import ServiceGroups.Instant.Calendar

/-!
# Instants

A point in time is a count of seconds from the start of 1970 and a count of
nanoseconds.  The nanoseconds pass one second only inside the last second of a
minute: that is how the leap second 60 is kept apart from the second after it.
Instants lie in the years from -262143 to 262142 and compare by seconds first.
-/

namespace ServiceGroups

namespace Instant

/-- The first second of the first representable year. -/
def earliest : Int :=
  Calendar.dayNumber ⟨-262143, 1, 1⟩ * 86400

/-- The last second of the last representable year. -/
def latest : Int :=
  Calendar.dayNumber ⟨262142, 12, 31⟩ * 86400 + 86399

/-- Nanoseconds beyond a full second occur only in the last second of a minute. -/
def FitsMinute (seconds : Int) (nanos : Nat) : Prop :=
  nanos < 1000000000 ∨ nanos < 2000000000 ∧ seconds % 60 = 59

instance (seconds : Int) (nanos : Nat) : Decidable (FitsMinute seconds nanos) :=
  inferInstanceAs (Decidable (_ ∨ _))

end Instant

/-- A point in time with nanosecond resolution. -/
structure Instant where
  seconds : Int
  nanos : Nat
  inRange : Instant.earliest ≤ seconds ∧ seconds ≤ Instant.latest
  fitsMinute : Instant.FitsMinute seconds nanos
deriving DecidableEq

namespace Instant

/-- The instant with the given counts, if they are in range. -/
def ofCounts? (seconds : Int) (nanos : Nat) : Option Instant :=
  if fits : (earliest ≤ seconds ∧ seconds ≤ latest) ∧ FitsMinute seconds nanos then
    some ⟨seconds, nanos, fits.1, fits.2⟩
  else none

def epoch : Instant :=
  ⟨0, 0, by decide, by decide⟩

instance : Inhabited Instant :=
  ⟨epoch⟩

/-- Instants compare by seconds, then by nanoseconds. -/
instance : Ord Instant where
  compare first second :=
    (compare first.seconds second.seconds).then (compare first.nanos second.nanos)

end Instant

end ServiceGroups
