import ServiceGroups.Hcl.Quoted

/-!
# Reading quoted strings of the job language

A double-quoted string is read from left to right.  A backslash must be followed
by the letter of an escape; a doubled sigil before an opening brace stands for
the sigil and the brace; a single sigil there starts an interpolation; a quote
ends the string; and a line break is not allowed inside it.  Reading a whole job
text separates its code from its strings.
-/

namespace ServiceGroups

namespace Hcl

/-- What a string is made of: characters, and places where an interpolation
starts. -/
inductive Piece where
  | char (char : Char)
  | interpolation (sigil : Char)
deriving DecidableEq, Repr

def escaped? (letter : Char) : Option Char :=
  match letter with
  | '\\' => some '\\'
  | '"' => some '"'
  | 'n' => some '\n'
  | 'r' => some '\r'
  | 't' => some '\t'
  | _ => none

/-- Read the inside of a string up to and including its closing quote: the
pieces of the string and the characters after it. -/
def readString : List Char → Option (List Piece × List Char)
  | [] => none
  | '"' :: rest => some ([], rest)
  | '\\' :: letter :: rest => do
    let char ← escaped? letter
    let (pieces, after) ← readString rest
    some (.char char :: pieces, after)
  | '$' :: '$' :: '{' :: rest => do
    let (pieces, after) ← readString rest
    some (.char '$' :: .char '{' :: pieces, after)
  | '%' :: '%' :: '{' :: rest => do
    let (pieces, after) ← readString rest
    some (.char '%' :: .char '{' :: pieces, after)
  | '$' :: '{' :: rest => do
    let (pieces, after) ← readString rest
    some (.interpolation '$' :: pieces, after)
  | '%' :: '{' :: rest => do
    let (pieces, after) ← readString rest
    some (.interpolation '%' :: pieces, after)
  | char :: rest =>
    if char = '\n' ∨ char = '\r' ∨ char = '\\' then none
    else do
      let (pieces, after) ← readString rest
      some (.char char :: pieces, after)

/-- A part of a job text: a character of code, or a string. -/
inductive Item where
  | code (char : Char)
  | string (pieces : List Piece)
deriving DecidableEq, Repr

theorem length_lt_of_readString {chars after : List Char} {pieces : List Piece}
    (read : readString chars = some (pieces, after)) : after.length < chars.length := by
  fun_induction readString chars generalizing pieces after with
  | case1 => simp at read
  | case2 => simp at read; simp [← read.2]
  | case3 letter rest ih =>
    simp only [Option.bind_eq_bind, Option.bind_eq_some_iff, Option.some.injEq] at read
    obtain ⟨_, _, ⟨_, _⟩, inner, same⟩ := read
    cases same
    exact Nat.lt_succ_of_lt (Nat.lt_succ_of_lt (ih inner))
  | case4 rest ih | case5 rest ih =>
    simp only [Option.bind_eq_bind, Option.bind_eq_some_iff, Option.some.injEq] at read
    obtain ⟨⟨_, _⟩, inner, same⟩ := read
    cases same
    exact Nat.lt_succ_of_lt (Nat.lt_succ_of_lt (Nat.lt_succ_of_lt (ih inner)))
  | case6 rest ih | case7 rest ih =>
    simp only [Option.bind_eq_bind, Option.bind_eq_some_iff, Option.some.injEq] at read
    obtain ⟨⟨_, _⟩, inner, same⟩ := read
    cases same
    exact Nat.lt_succ_of_lt (Nat.lt_succ_of_lt (ih inner))
  | case8 => simp at read
  | case9 char rest _ _ _ _ _ _ _ ih =>
    simp only [Option.bind_eq_bind, Option.bind_eq_some_iff, Option.some.injEq] at read
    obtain ⟨⟨_, _⟩, inner, same⟩ := read
    cases same
    exact Nat.lt_succ_of_lt (ih inner)

/-- Read a whole job text: its characters of code and its strings, in order. -/
def readText : List Char → Option (List Item)
  | [] => some []
  | '"' :: rest =>
    match found : readString rest with
    | none => none
    | some (pieces, after) =>
      have : after.length < rest.length := length_lt_of_readString found
      (readText after).map (.string pieces :: ·)
  | char :: rest => (readText rest).map (.code char :: ·)
termination_by chars => chars.length

end Hcl

end ServiceGroups
