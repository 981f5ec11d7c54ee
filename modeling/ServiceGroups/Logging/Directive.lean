import ServiceGroups.Logging
import ServiceGroups.Text.Alphanumeric
import ServiceGroups.Text.Form
import ServiceGroups.Text.Numeral

/-!
# Log directives

A directive lets events through up to a level.  It may be for all events or for
those of some targets, for events within a span, and for events that have certain
fields: `level`, `target`, `target=level`, `target[span]=level`,
`[span{field}]=level`.  A directive without a level lets everything through.

The marks that separate its parts are looked for in the text without the blanks
around it.  The parts themselves are cut, at the places found, from the whole
text, so that blanks in front of a directive become part of it and shift what
follows, and blanks behind it stay in its last part.  Where such a shift leads
into the middle of a character, nothing can be cut, which is worse than a
directive that is merely malformed.
-/

namespace ServiceGroups

/-- A demand on the fields of an event: that it has a field, or that the field
has a value. -/
structure LogFieldDemand where
  name : String
  hasValue : Bool
deriving DecidableEq, Repr

/-- A directive: events are let through up to a rank. -/
structure LogDirective where
  /-- What the names of the targets begin with; nothing is for all targets. -/
  target : Option String
  /-- The span that events have to lie in. -/
  span : Option String
  fields : List LogFieldDemand
  rank : Nat
deriving DecidableEq, Repr

/-- Why a directive cannot be read. -/
inductive LogDirectiveIssue where
  /-- The text is no directive. -/
  | malformed
  /-- A part would begin or end inside a character. -/
  | insideCharacter
deriving DecidableEq, Repr

namespace LogDirective

/-- The rank that a word or a number stands for. -/
def rankOf? (text : String) : Option Nat :=
  match Text.boundedDecimal? LogLevel.trace.rank text with
  | some rank => some rank
  | none =>
    match String.ofList (text.toList.map Char.toLower) with
    | "off" => some 0
    | "error" => some LogLevel.error.rank
    | "warn" => some LogLevel.warn.rank
    | "info" => some LogLevel.info.rank
    | "debug" => some LogLevel.debug.rank
    | "trace" => some LogLevel.trace.rank
    | _ => none

/-- The rank that stands behind an equals sign; nothing there lets everything
through. -/
def rankAfterMark? (text : String) : Option Nat :=
  if text.isEmpty then some LogLevel.trace.rank else rankOf? text

/-- Read a demand on a field: a name, or a name and a value. -/
def fieldDemand (text : String) : LogFieldDemand :=
  ⟨String.ofList (Text.splitAtFirst '=' text.toList).1, text.toList.contains '='⟩

/-- Is the demand on an event alone, so that no span needs to be entered? -/
def isStatic (directive : LogDirective) : Bool :=
  directive.span.isNone && directive.fields.all (!·.hasValue)

def isDynamic (directive : LogDirective) : Bool :=
  directive.span.isSome || !directive.fields.isEmpty

/-- The part of a directive that is being read; the numbers are the places where
the part begins. -/
inductive Part where
  | start
  | levelOrTarget
  | span (place : Nat)
  | field (place : Nat)
  | afterFields
  | afterSpan
  | level (place : Nat)
deriving DecidableEq, Repr

/-- A reader of a directive: the part it is in, the place it has come to, and
what it has found. -/
structure Reader where
  part : Part
  place : Nat
  target : Option String
  span : Option String
  fields : List LogFieldDemand
deriving DecidableEq, Repr

namespace Reader

def initial : Reader :=
  ⟨.start, 0, none, none, []⟩

def mayBegin (char : Char) : Bool :=
  char == '-' || char == ':' || char == '_' || Text.isAlphanumeric char

/-- The part of the whole text between two places. -/
def cut (whole : String) (start stop : Nat) : Except LogDirectiveIssue String :=
  match Text.cut? start stop whole with
  | some part => .ok part
  | none => .error .insideCharacter

/-- One more character of the directive that is cut from the whole text. -/
def step (whole : String) (reader : Reader) (char : Char) :
    Except LogDirectiveIssue Reader :=
  let next := reader.place + char.utf8Size
  let upTo (begun : Nat) := cut whole begun reader.place
  match reader.part with
  | .start =>
    if char = '[' then .ok { reader with part := .span next, place := next }
    else if mayBegin char then .ok { reader with part := .levelOrTarget, place := next }
    else .error .malformed
  | .levelOrTarget =>
    if char = '=' then
      (upTo 0).map fun target =>
        { reader with part := .level next, place := next, target := some target }
    else if char = '[' then
      (upTo 0).map fun target =>
        { reader with part := .span next, place := next, target := some target }
    else .ok { reader with place := next }
  | .span begun =>
    if char = ']' then
      (upTo begun).map fun name =>
        { reader with part := .afterSpan, place := next, span := some name }
    else if char = '\x7b' then
      (upTo begun).map fun name =>
        { reader with
          part := .field next, place := next, span := if name.isEmpty then none else some name }
    else .ok { reader with place := next }
  | .field begun =>
    if char = '\x7d' then
      (upTo begun).bind fun demand =>
        if demand.isEmpty then .error .malformed
        else
          .ok { reader with
            part := .afterFields, place := next
            fields := reader.fields ++ [fieldDemand demand] }
    else .ok { reader with place := next }
  | .afterFields =>
    if char = ']' then .ok { reader with part := .afterSpan, place := next }
    else .error .malformed
  | .afterSpan =>
    if char = '=' then .ok { reader with part := .level next, place := next }
    else .error .malformed
  | .level _ => .ok { reader with place := next }

/-- The directive, when the text has ended. -/
def finish (whole : String) (reader : Reader) : Except LogDirectiveIssue LogDirective :=
  match reader.part with
  | .levelOrTarget =>
    match rankOf? whole with
    | some rank => .ok ⟨none, none, [], rank⟩
    | none => .ok ⟨some whole, none, [], LogLevel.trace.rank⟩
  | .level begun =>
    (cut whole begun whole.utf8ByteSize).bind fun text =>
      match rankAfterMark? text with
      | some rank => .ok ⟨reader.target, reader.span, reader.fields, rank⟩
      | none => .error .malformed
  | .afterSpan => .ok ⟨reader.target, reader.span, reader.fields, LogLevel.trace.rank⟩
  | _ => .error .malformed

end Reader

def read (text : String) : Except LogDirectiveIssue LogDirective :=
  ((Text.trim text).toList.foldlM (Reader.step text) Reader.initial).bind (Reader.finish text)

end LogDirective

end ServiceGroups
