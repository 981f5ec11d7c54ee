import ServiceGroups.Text.Percent

/-!
# Form-encoded pairs

A query is a list of named values.  Each name and value is written with the
letters, digits and `*-._` as themselves, blanks as plus signs and every other
byte as a percent code, so that `&` and `=` can only be separators.
-/

namespace ServiceGroups

namespace Text

/-- The bytes that stand for themselves in a form-encoded component. -/
def isFormPlain (byte : UInt8) : Bool :=
  (0x30 ≤ byte && byte ≤ 0x39) || (0x41 ≤ byte && byte ≤ 0x5a) ||
    (0x61 ≤ byte && byte ≤ 0x7a) || byte == 0x2a || byte == 0x2d || byte == 0x2e ||
    byte == 0x5f

def formByte (byte : UInt8) : List Char :=
  if isFormPlain byte then [Char.ofNat byte.toNat]
  else if byte == 0x20 then ['+']
  else percentCode byte

def formComponent (text : String) : List Char :=
  (bytes text).flatMap formByte

def formPair (pair : String × String) : List Char :=
  formComponent pair.1 ++ '=' :: formComponent pair.2

def formEncode (pairs : List (String × String)) : String :=
  String.ofList (List.intercalate ['&'] (pairs.map formPair))

def formDecodeBytes (content : List UInt8) : List UInt8 :=
  percentDecodeBytes (content.map fun byte => if byte == 0x2b then 0x20 else byte)

/-- Decode one component; it must stand for a text. -/
def formDecodeComponent? (component : List Char) : Option String :=
  ofBytes? (formDecodeBytes (bytes (String.ofList component)))

def splitAtEach (separator : Char) : List Char → List (List Char)
  | [] => [[]]
  | char :: rest =>
    match splitAtEach separator rest with
    | [] => [[char]]
    | piece :: pieces =>
      if char = separator then [] :: piece :: pieces else (char :: piece) :: pieces

/-- Cut a list at the first separator; the second part misses the separator. -/
def splitAtFirst (separator : Char) (text : List Char) : List Char × List Char :=
  (text.takeWhile (· != separator), (text.dropWhile (· != separator)).drop 1)

/-- The named values of a query.  A component that stands for no text is kept
as absent, so that its partner can still be judged. -/
def formDecode (query : String) : List (Option String × Option String) :=
  ((splitAtEach '&' query.toList).filter (!·.isEmpty)).map fun pair =>
    let (name, value) := splitAtFirst '=' pair
    (formDecodeComponent? name, formDecodeComponent? value)

end Text

end ServiceGroups
