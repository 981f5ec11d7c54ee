/-!
# Punycode

A label of a domain with characters beyond ASCII is written in ASCII: its ASCII
characters first, then the others as differences of code points and positions,
each a number with digits of varying weight.  The weights adapt to the size of
the differences seen so far.
-/

namespace ServiceGroups

namespace Punycode

def digit (value : Nat) : Char :=
  if value < 26 then Char.ofNat ('a'.toNat + value) else Char.ofNat ('0'.toNat + (value - 26))

/-- The threshold of a place, between 1 and 26. -/
def threshold (place bias : Nat) : Nat :=
  if place ≤ bias then 1 else if bias + 26 ≤ place then 26 else place - bias

/-- Scale a difference down to the size from which the bias is taken, and count
the places that were cut. -/
def scaleDown (delta place : Nat) : Nat × Nat :=
  if 455 < delta then scaleDown (delta / 35) (place + 36) else (delta, place)
termination_by delta
decreasing_by exact Nat.div_lt_self (by omega) (by omega)

def adapt (delta count : Nat) (isFirst : Bool) : Nat :=
  let halved := if isFirst then delta / 700 else delta / 2
  let (scaled, place) := scaleDown (halved + halved / count) 0
  place + 36 * scaled / (scaled + 38)

def digits (bias place value : Nat) : List Char :=
  let least := threshold place bias
  if value < least then [digit value]
  else
    digit (least + (value - least) % (36 - least)) ::
      digits bias (place + 36) ((value - least) / (36 - least))
termination_by value
decreasing_by
  have positive : 1 ≤ threshold place bias := by
    unfold threshold
    split
    · omega
    · split <;> omega
  calc (value - threshold place bias) / (36 - threshold place bias)
      ≤ value - threshold place bias := Nat.div_le_self _ _
    _ < value := by omega

/-- An encoder: what is written, the running difference, the bias, how many
characters have been handled, and whether any beyond ASCII was among them. -/
structure Encoder where
  written : List Char
  delta : Nat
  bias : Nat
  handled : Nat
  isFirst : Bool

/-- Pass one character of the label while handling a code point. -/
def pass (code : Nat) (encoder : Encoder) (char : Char) : Encoder :=
  if char.toNat < code then { encoder with delta := encoder.delta + 1 }
  else if char.toNat = code then
    { written := encoder.written ++ digits encoder.bias 36 encoder.delta
      delta := 0
      bias := adapt encoder.delta (encoder.handled + 1) encoder.isFirst
      handled := encoder.handled + 1
      isFirst := false }
  else encoder

/-- Handle code points in increasing order; `next` is the least one not handled
yet. -/
def handleAll (label : List Char) : List Nat → (next : Nat) → Encoder → Encoder
  | [], _, encoder => encoder
  | code :: codes, next, encoder =>
    let skipped :=
      { encoder with delta := encoder.delta + (code - next) * (encoder.handled + 1) }
    let passed := label.foldl (pass code) skipped
    handleAll label codes (code + 1) { passed with delta := passed.delta + 1 }

def isAscii (char : Char) : Bool :=
  char.toNat < 0x80

def encodeLabel (label : List Char) : List Char :=
  if label.all isAscii then label
  else
    let basic := label.filter isAscii
    let codes := (((label.filter (!isAscii ·)).map Char.toNat).mergeSort (· ≤ ·)).eraseDups
    let start : Encoder :=
      ⟨if basic.isEmpty then [] else basic ++ ['-'], 0, 72, basic.length, true⟩
    "xn--".toList ++ (handleAll label codes 0x80 start).written

end Punycode

end ServiceGroups
