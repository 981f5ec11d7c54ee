import ServiceGroups.Json.Magnitude
import ServiceGroups.Json.Value

/-!
# JSON tokens

Text is cut into tokens by a scanner that sees one character at a time.  A
string that names a lone half of a surrogate pair and a number beyond the range
of doubles are still tokens, but hold no value: a reader that skips over them
does not mind, one that wants their value does.  After the first character that
fits no token the scanner has failed and reads nothing more.
-/

namespace ServiceGroups

namespace Json

/-- A token.  A string or number without a value is one that cannot be read. -/
inductive Token where
  | openArray
  | closeArray
  | openObject
  | closeObject
  | comma
  | colon
  | null
  | boolean (value : Bool)
  | number (value : Option Number)
  | string (value : Option String)
  | broken
deriving DecidableEq, Repr

/-- Where the scanner is inside a number. -/
inductive NumberPart where
  | sign
  | leadingZero
  | integer
  | point
  | fraction
  | exponent
  | exponentSign
  | exponentDigits
deriving DecidableEq, Repr

/-- Where the scanner is inside a string: between characters, after a
backslash, or inside a code unit of which some digits have been read. -/
inductive StringPart where
  | plain
  | escape
  | unit (digits : Nat) (value : Nat)
deriving DecidableEq, Repr

/-- What the scanner has begun and not ended.  Characters read are kept in
reverse.  A string also holds the first half of a surrogate pair that waits for
its second half. -/
inductive Pending where
  | nothing
  | word (read : List Char) (left : List Char)
  | number (part : NumberPart) (read : List Char)
  | string (part : StringPart) (half : Option Nat) (content : Option (List Char))
  | failed
deriving DecidableEq, Repr

/-- A scanner: the tokens found, latest first, and what is pending. -/
structure Scanner where
  found : List Token
  pending : Pending

namespace Scanner

def start : Scanner :=
  ⟨[], .nothing⟩

/-- A scanner that has met a character fitting no token. -/
def fail (scanner : Scanner) : Scanner :=
  ⟨.broken :: scanner.found, .failed⟩

/-- Add a token and wait for the next one. -/
def emit (scanner : Scanner) (token : Token) : Scanner :=
  ⟨token :: scanner.found, .nothing⟩

/-- Is the character one of the four blanks of JSON? -/
def isJsonBlank (char : Char) : Bool :=
  char == ' ' || char == '\n' || char == '\t' || char == '\r'

def begin (scanner : Scanner) (char : Char) : Scanner :=
  if isJsonBlank char then ⟨scanner.found, .nothing⟩
  else if isDigit char && char != '0' then ⟨scanner.found, .number .integer [char]⟩
  else
    match char with
    | '[' => scanner.emit .openArray
    | ']' => scanner.emit .closeArray
    | '{' => scanner.emit .openObject
    | '}' => scanner.emit .closeObject
    | ',' => scanner.emit .comma
    | ':' => scanner.emit .colon
    | '"' => ⟨scanner.found, .string .plain none (some [])⟩
    | '-' => ⟨scanner.found, .number .sign ['-']⟩
    | '0' => ⟨scanner.found, .number .leadingZero ['0']⟩
    | 'n' => ⟨scanner.found, .word ['n'] ['u', 'l', 'l']⟩
    | 't' => ⟨scanner.found, .word ['t'] ['r', 'u', 'e']⟩
    | 'f' => ⟨scanner.found, .word ['f'] ['a', 'l', 's', 'e']⟩
    | _ => scanner.fail

/-- The token of a finished word, named by its first letter. -/
def wordToken (first : Char) : Token :=
  if first = 'n' then .null else .boolean (first == 't')

/-- The next part of a number after one more character, if the character
continues the number. -/
def nextPart : NumberPart → Char → Option NumberPart
  | .sign, char =>
    if char = '0' then some .leadingZero else if isDigit char then some .integer else none
  | .leadingZero, char => afterInteger char
  | .integer, char => if isDigit char then some .integer else afterInteger char
  | .point, char => if isDigit char then some .fraction else none
  | .fraction, char =>
    if isDigit char then some .fraction
    else if char = 'e' ∨ char = 'E' then some .exponent else none
  | .exponent, char =>
    if isDigit char then some .exponentDigits
    else if char = '+' ∨ char = '-' then some .exponentSign else none
  | .exponentSign, char => if isDigit char then some .exponentDigits else none
  | .exponentDigits, char => if isDigit char then some .exponentDigits else none
where
  /-- What may follow the whole part of a number. -/
  afterInteger (char : Char) : Option NumberPart :=
    if char = '.' then some .point
    else if char = 'e' ∨ char = 'E' then some .exponent else none

def mayEnd : NumberPart → Bool
  | .leadingZero | .integer | .fraction | .exponentDigits => true
  | _ => false

/-- The number of a spelling without point and exponent, where it is whole
within 64 bits.  Minus zero is not. -/
def wholeOf? (spelling : List Char) : Option Int :=
  let magnitude := digitsValue (spelling.filter isDigit)
  if spelling.head? = some '-' then
    if magnitude ≠ 0 ∧ magnitude ≤ Nat.pow 2 63 then some (-(magnitude : Int)) else none
  else if magnitude < Nat.pow 2 64 then some magnitude
  else none

/-- The number of a finished spelling: whole where it can be, else a decimal
within the range of doubles. -/
def numberOf (spelling : List Char) : Option Number :=
  let whole :=
    if spelling.length ≤ 20 && spelling.all (fun char => isDigit char || char == '-') then
      wholeOf? spelling
    else none
  match whole with
  | some value => some (.whole value)
  | none =>
    if Magnitude.isDouble spelling then some (.decimal (String.ofList spelling)) else none

/-- Add one character to the content of a string, unless it has no value. -/
def addChar (content : Option (List Char)) (char : Char) : Option (List Char) :=
  content.map (char :: ·)

def escapedChar? (char : Char) : Option Char :=
  match char with
  | '"' => some '"'
  | '\\' => some '\\'
  | '/' => some '/'
  | 'b' => some '\x08'
  | 'f' => some '\x0c'
  | 'n' => some '\n'
  | 'r' => some '\r'
  | 't' => some '\t'
  | _ => none

/-- Is the code unit the first half of a surrogate pair? -/
def isHighHalf (unit : Nat) : Bool :=
  0xd800 ≤ unit && unit < 0xdc00

/-- Is the code unit the second half of a surrogate pair? -/
def isLowHalf (unit : Nat) : Bool :=
  0xdc00 ≤ unit && unit < 0xe000

/-- What a finished code unit adds to a string, given a first half that waits:
the new waiting half and the new content.  A half without its partner leaves
the string without a value. -/
def addUnit (half : Option Nat) (content : Option (List Char)) (unit : Nat) :
    Option Nat × Option (List Char) :=
  match half with
  | some high =>
    if isLowHalf unit then
      (none, addChar content (Char.ofNat (0x10000 + (high - 0xd800) * 0x400 + (unit - 0xdc00))))
    else (none, none)
  | none =>
    if isHighHalf unit then (some unit, content)
    else if isLowHalf unit then (none, none)
    else (none, addChar content (Char.ofNat unit))

/-- The content of a string when something other than a code unit follows. -/
def settle (half : Option Nat) (content : Option (List Char)) : Option (List Char) :=
  if half.isSome then none else content

def insideString (scanner : Scanner) (part : StringPart) (half : Option Nat)
    (content : Option (List Char)) (char : Char) : Scanner :=
  match part with
  | .plain =>
    if char = '"' then
      scanner.emit (.string ((settle half content).map fun read => String.ofList read.reverse))
    else if char = '\\' then ⟨scanner.found, .string .escape half content⟩
    else if char.toNat < 0x20 then scanner.fail
    else ⟨scanner.found, .string .plain none (addChar (settle half content) char)⟩
  | .escape =>
    if char = 'u' then ⟨scanner.found, .string (.unit 0 0) half content⟩
    else
      match escapedChar? char with
      | some escaped =>
        ⟨scanner.found, .string .plain none (addChar (settle half content) escaped)⟩
      | none => scanner.fail
  | .unit digits value =>
    match Text.hexValue? char with
    | none => scanner.fail
    | some digit =>
      let value := 16 * value + digit
      if digits = 3 then
        let added := addUnit half content value
        ⟨scanner.found, .string .plain added.1 added.2⟩
      else ⟨scanner.found, .string (.unit (digits + 1) value) half content⟩

def insideNumber (scanner : Scanner) (part : NumberPart) (read : List Char) (char : Char) :
    Scanner :=
  match nextPart part char with
  | some next => ⟨scanner.found, .number next (char :: read)⟩
  | none =>
    if mayEnd part && !(part == .leadingZero && isDigit char) then
      (scanner.emit (.number (numberOf read.reverse))).begin char
    else scanner.fail

def step (scanner : Scanner) (char : Char) : Scanner :=
  match scanner.pending with
  | .failed => scanner
  | .nothing => scanner.begin char
  | .word read [] => scanner.emit (wordToken (read.getLast?.getD 'n'))
  | .word read (expected :: left) =>
    if char = expected then
      if left.isEmpty then scanner.emit (wordToken ((char :: read).getLast?.getD 'n'))
      else ⟨scanner.found, .word (char :: read) left⟩
    else scanner.fail
  | .number part read => scanner.insideNumber part read char
  | .string part half content => scanner.insideString part half content char

/-- The tokens found when the text has ended. -/
def finish (scanner : Scanner) : List Token :=
  match scanner.pending with
  | .nothing | .failed => scanner.found.reverse
  | .number part read =>
    if mayEnd part then (scanner.emit (.number (numberOf read.reverse))).found.reverse
    else scanner.fail.found.reverse
  | _ => scanner.fail.found.reverse

end Scanner

def tokens (text : String) : List Token :=
  (text.toList.foldl Scanner.step Scanner.start).finish

end Json

end ServiceGroups
