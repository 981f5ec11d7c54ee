import ServiceGroups.Hcl.Quoted

/-!
# Job texts as fragments

A job text alternates between code and double-quoted literals.  A literal is
made of segments: fixed text that is known to need no quoting, and values that
are quoted where they stand.  Writing the fragments one after the other gives
the text.
-/

namespace ServiceGroups

namespace Hcl

/-- A part of a literal: text written as it stands, or a value to be quoted. -/
inductive Segment where
  | verbatim (text : String)
  | quoted (value : String)
deriving DecidableEq, Repr

/-- A part of a job text: code, or a double-quoted literal. -/
inductive Fragment where
  | code (text : String)
  | literal (segments : List Segment)
deriving DecidableEq, Repr

def Fragment.word (text : String) : Fragment :=
  .literal [.verbatim text]

def Fragment.value (value : String) : Fragment :=
  .literal [.quoted value]

def Segment.text : Segment → String
  | .verbatim text => text
  | .quoted value => quote value

def Fragment.text : Fragment → String
  | .code text => text
  | .literal segments => "\"" ++ String.join (segments.map Segment.text) ++ "\""

def documentText (fragments : List Fragment) : String :=
  String.join (fragments.map Fragment.text)

end Hcl

end ServiceGroups
