import ServiceGroups.Text.Utf

/-!
# Base64

Values that may hold any byte travel to the command line of a job in base64
with padding.  Three bytes are four six-bit groups; one or two bytes left at
the end are padded with zero bits and marked by equals signs.  The decoder
beside the encoder accepts exactly such texts with zero padding bits.
-/

namespace ServiceGroups

namespace Base64

def digit (group : Nat) : Char :=
  if group < 26 then Char.ofNat ('A'.toNat + group)
  else if group < 52 then Char.ofNat ('a'.toNat + (group - 26))
  else if group < 62 then Char.ofNat ('0'.toNat + (group - 52))
  else if group = 62 then '+'
  else '/'

def digitValue? (char : Char) : Option Nat :=
  if 'A' ≤ char ∧ char ≤ 'Z' then some (char.toNat - 'A'.toNat)
  else if 'a' ≤ char ∧ char ≤ 'z' then some (char.toNat - 'a'.toNat + 26)
  else if '0' ≤ char ∧ char ≤ '9' then some (char.toNat - '0'.toNat + 52)
  else if char = '+' then some 62
  else if char = '/' then some 63
  else none

def encodeBytes : List UInt8 → List Char
  | [] => []
  | [first] =>
    [digit (first.toNat / 4), digit (first.toNat % 4 * 16), '=', '=']
  | [first, second] =>
    [digit (first.toNat / 4), digit (first.toNat % 4 * 16 + second.toNat / 16),
      digit (second.toNat % 16 * 4), '=']
  | first :: second :: third :: rest =>
    digit (first.toNat / 4) :: digit (first.toNat % 4 * 16 + second.toNat / 16) ::
      digit (second.toNat % 16 * 4 + third.toNat / 64) :: digit (third.toNat % 64) ::
      encodeBytes rest

/-- Encode onto reversed text already written, one group at a time. -/
def encodeOnto (written : List Char) : List UInt8 → List Char
  | [] => written
  | [first] => (encodeBytes [first]).reverse ++ written
  | [first, second] => (encodeBytes [first, second]).reverse ++ written
  | first :: second :: third :: rest =>
    encodeOnto (digit (third.toNat % 64) :: digit (second.toNat % 16 * 4 + third.toNat / 64) ::
      digit (first.toNat % 4 * 16 + second.toNat / 16) :: digit (first.toNat / 4) :: written)
      rest

theorem encodeOnto_eq (written : List Char) (content : List UInt8) :
    encodeOnto written content = (encodeBytes content).reverse ++ written := by
  fun_induction encodeOnto written content with
  | case1 => simp [encodeBytes]
  | case2 => rfl
  | case3 => rfl
  | case4 written first second third rest ih => simp [encodeBytes, ih]

def decodeBytes? : List Char → Option (List UInt8)
  | [] => some []
  | [one, two, '=', '='] => do
    let first ← digitValue? one
    let second ← digitValue? two
    if second % 16 = 0 then some [UInt8.ofNat (first * 4 + second / 16)] else none
  | [one, two, three, '='] => do
    let first ← digitValue? one
    let second ← digitValue? two
    let third ← digitValue? three
    if third % 4 = 0 then
      some [UInt8.ofNat (first * 4 + second / 16),
        UInt8.ofNat (second % 16 * 16 + third / 4)]
    else none
  | one :: two :: three :: four :: rest => do
    let first ← digitValue? one
    let second ← digitValue? two
    let third ← digitValue? three
    let fourth ← digitValue? four
    let tail ← decodeBytes? rest
    some (UInt8.ofNat (first * 4 + second / 16) ::
      UInt8.ofNat (second % 16 * 16 + third / 4) ::
      UInt8.ofNat (third % 4 * 64 + fourth) :: tail)
  | _ => none

/-- The base64 form of a text's UTF-8 bytes. -/
def encode (text : String) : String :=
  String.ofList (encodeOnto [] (Text.bytes text)).reverse

theorem encode_toList (text : String) :
    (encode text).toList = encodeBytes (Text.bytes text) := by
  simp [encode, encodeOnto_eq]

/-- The base64 form of a key and its value joined by an equals sign. -/
def encodePair (key value : String) : String :=
  encode (key ++ "=" ++ value)

end Base64

end ServiceGroups
