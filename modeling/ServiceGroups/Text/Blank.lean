/-!
# Blank characters

The service ignores blanks around names, addresses and header values.  A blank
is any character with the white-space property; in particular the no-break
space and the ideographic space are blanks while the zero-width space is not.
-/

namespace ServiceGroups

namespace Text

def isBlank (char : Char) : Bool :=
  let code := char.toNat
  (0x9 ≤ code && code ≤ 0xd) || code == 0x20 || code == 0x85 || code == 0xa0 ||
    code == 0x1680 || (0x2000 ≤ code && code ≤ 0x200a) || code == 0x2028 ||
    code == 0x2029 || code == 0x202f || code == 0x205f || code == 0x3000

/-- Drop every character at the end that satisfies `drops`. -/
def dropEndWhile (drops : Char → Bool) (text : List Char) : List Char :=
  (text.reverse.dropWhile drops).reverse

def trim (text : String) : String :=
  String.ofList (dropEndWhile isBlank (text.toList.dropWhile isBlank))

def isAllBlank (text : String) : Bool :=
  text.toList.all isBlank

/-- The text, unless it is empty or blank throughout. -/
def nonBlank? (text : String) : Option String :=
  if isAllBlank text then none else some text

def trimStartChar (char : Char) (text : String) : String :=
  String.ofList (text.toList.dropWhile (· == char))

def trimEndChar (char : Char) (text : String) : String :=
  String.ofList (dropEndWhile (· == char) text.toList)

end Text

end ServiceGroups
