/-!
# Spans of time

A span of time is kept as whole seconds and nanoseconds.  It is made of a number
of milliseconds and asked for one, which has no bound; where it is written as a
word, what does not fit is cut off.
-/

namespace ServiceGroups

structure Duration where
  seconds : UInt64
  nanos : Nat
  nanos_lt : nanos < 1000000000
deriving DecidableEq

namespace Duration

def ofMillis (millis : UInt64) : Duration where
  seconds := millis / 1000
  nanos := millis.toNat % 1000 * 1000000
  nanos_lt := by omega

def millis (duration : Duration) : Nat :=
  duration.seconds.toNat * 1000 + duration.nanos / 1000000

/-- The milliseconds as a word. -/
def word (duration : Duration) : UInt64 :=
  .ofNat duration.millis

def isZero (duration : Duration) : Bool :=
  duration.seconds == 0 && duration.nanos == 0

@[simp]
theorem millis_ofMillis (millis : UInt64) : (ofMillis millis).millis = millis.toNat := by
  have parts : (ofMillis millis).millis =
      (millis / 1000).toNat * 1000 + millis.toNat % 1000 * 1000000 / 1000000 := rfl
  rw [parts, UInt64.toNat_div, Nat.mul_div_cancel _ (by decide), Nat.mul_comm]
  exact Nat.div_add_mod millis.toNat 1000

/-- No word of milliseconds is cut on the way through a span of time. -/
@[simp]
theorem word_ofMillis (millis : UInt64) : (ofMillis millis).word = millis := by
  rw [word, millis_ofMillis, UInt64.ofNat_toNat]

end Duration

end ServiceGroups
