/-!
# Text as bytes

Percent codes and base64 work on the bytes of a text in UTF-8, and places in a
text are counted in bytes.  Text to bytes is total; bytes to text is partial,
because not every byte string is the encoding of a text.
-/

namespace ServiceGroups

namespace Text

def bytes (text : String) : List UInt8 :=
  text.toUTF8.data.toList

/-- The text whose UTF-8 bytes are given, if there is one. -/
def ofBytes? (content : List UInt8) : Option String :=
  String.fromUTF8? ⟨content.toArray⟩

/-- The characters before a place and those from it on, where a place is the
number of bytes in front; a place inside a character or behind the end is none. -/
def splitAtPlace? : (place : Nat) → List Char → Option (List Char × List Char)
  | 0, chars => some ([], chars)
  | _ + 1, [] => none
  | place + 1, char :: rest =>
    if char.utf8Size ≤ place + 1 then
      (splitAtPlace? (place + 1 - char.utf8Size) rest).map fun (front, back) =>
        (char :: front, back)
    else none

/-- The part of a text between two places, counted in bytes. -/
def cut? (start stop : Nat) (text : String) : Option String := do
  let (front, _) ← splitAtPlace? stop text.toList
  let (_, part) ← splitAtPlace? start front
  some (String.ofList part)

end Text

end ServiceGroups
