/-!
# Quoted strings of the job language

A job text carries values inside double-quoted strings.  A backslash starts an
escape, an unescaped quote ends the string, and `$` or `%` before an opening
brace would start an interpolation unless it is doubled.  Quoting writes any
text so that none of this happens by accident; the reader states the rules it
has to survive.
-/

namespace ServiceGroups

namespace Hcl

/-- Does this character start an interpolation before an opening brace? -/
def isSigil (char : Char) : Bool :=
  char == '$' || char == '%'

/-- Quote one character, given the character that follows it. -/
def quoteChar (char : Char) (next : Option Char) : List Char :=
  match char with
  | '\\' => ['\\', '\\']
  | '"' => ['\\', '"']
  | '\n' => ['\\', 'n']
  | '\r' => ['\\', 'r']
  | '\t' => ['\\', 't']
  | _ => if isSigil char && next == some '{' then [char, char] else [char]

def withNext (chars : List Char) : List (Char × Option Char) :=
  chars.zip (chars.tail.map some ++ [none])

/-- Quote the characters of a value for use between double quotes. -/
def quoteChars (chars : List Char) : List Char :=
  (withNext chars).flatMap fun pair => quoteChar pair.1 pair.2

@[simp]
theorem quoteChars_nil : quoteChars [] = [] :=
  rfl

@[simp]
theorem quoteChars_cons (char : Char) (rest : List Char) :
    quoteChars (char :: rest) = quoteChar char rest.head? ++ quoteChars rest := by
  cases rest <;> simp [quoteChars, withNext]

def quote (value : String) : String :=
  String.ofList (quoteChars value.toList)

end Hcl

end ServiceGroups
