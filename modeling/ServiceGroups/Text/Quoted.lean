import ServiceGroups.Text.Hexadecimal
import ServiceGroups.Text.Printable

/-!
# Quoted text for people

Messages and debugging views show text between double quotes so that its ends
and its invisible characters can be seen.  Visible characters stand for
themselves; the quote, the backslash and four common controls have short
escapes, and any other invisible or combining character is shown by its code
point.
-/

namespace ServiceGroups

namespace Text

/-- A code point between braces after the letter `u`. -/
def codePointEscape (char : Char) : List Char :=
  ['\\', 'u', '{'] ++ hexText char.toNat ++ ['}']

def quotedChar (char : Char) : List Char :=
  match char with
  | '"' => ['\\', '"']
  | '\\' => ['\\', '\\']
  | '\n' => ['\\', 'n']
  | '\r' => ['\\', 'r']
  | '\t' => ['\\', 't']
  | '\x00' => ['\\', '0']
  | _ =>
    if 0x20 ≤ char.toNat ∧ char.toNat < 0x7f then [char]
    else if isExtending char || !isPrintable char then codePointEscape char
    else [char]

/-- The text between double quotes, with everything invisible escaped. -/
def quoted (text : String) : String :=
  String.ofList ('"' :: (text.toList.flatMap quotedChar ++ ['"']))

end Text

end ServiceGroups
