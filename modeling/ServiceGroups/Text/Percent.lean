import ServiceGroups.Text.Hexadecimal
import ServiceGroups.Text.Utf

/-!
# Percent codes

Inside addresses a byte may be written as a percent sign and two hexadecimal
digits.  Decoding is lenient: a percent sign that does not start such a code
stands for itself, so decoding never fails on bytes.
-/

namespace ServiceGroups

namespace Text

/-- A byte as a percent sign and two upper-case digits. -/
def percentCode (byte : UInt8) : List Char :=
  ['%', hexDigitUpper (byte.toNat / 16), hexDigitUpper (byte.toNat % 16)]

/-- Write the bytes that satisfy `plain` as characters and code the others. -/
def percentEncodeBytes (plain : UInt8 → Bool) (content : List UInt8) : List Char :=
  content.flatMap fun byte =>
    if plain byte then [Char.ofNat byte.toNat] else percentCode byte

/-- Write a text with the bytes that do not satisfy `plain` coded. -/
def percentEncode (plain : UInt8 → Bool) (text : String) : String :=
  String.ofList (percentEncodeBytes plain (bytes text))

/-- The value of a byte read as a hexadecimal digit. -/
def hexByte? (byte : UInt8) : Option Nat :=
  hexValue? (Char.ofNat byte.toNat)

/-- Replace every well-formed percent code by its byte. -/
def percentDecodeBytes : List UInt8 → List UInt8
  | [] => []
  | 0x25 :: high :: low :: rest =>
    match hexByte? high, hexByte? low with
    | some upper, some lower => UInt8.ofNat (16 * upper + lower) :: percentDecodeBytes rest
    | _, _ => 0x25 :: percentDecodeBytes (high :: low :: rest)
  | byte :: rest => byte :: percentDecodeBytes rest

/-- Decode the percent codes of a text; the bytes must again be a text. -/
def percentDecode? (text : String) : Option String :=
  ofBytes? (percentDecodeBytes (bytes text))

end Text

end ServiceGroups
