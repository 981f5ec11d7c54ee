import ServiceGroups.Logging.Directive

/-!
# Log filters

A filter is a list of directives.  Of the directives for events, the most
specific one that applies decides: the one with the longest target, and then the
one that demands most fields.  Apart from that, an event in a span is let through
if a directive for that span lets it.  A list with a malformed directive is
replaced by the default one; a list that cannot even be cut into its parts leaves
no filter.
-/

namespace ServiceGroups

/-- A list of directives. -/
abbrev LogFilter : Type :=
  List LogDirective

namespace LogDirective

def coversTarget (directive : LogDirective) (target : String) : Bool :=
  directive.target.all (·.isPrefixOf target)

/-- Does the directive apply to the event, whatever span it lies in? -/
def coversEvent (directive : LogDirective) (event : LogEvent) : Bool :=
  directive.isStatic && directive.coversTarget event.target &&
    directive.fields.all (·.name == LogEvent.messageField)

/-- Does the directive apply to the span that the event lies in?  Spans have no
fields of their own. -/
def coversSpan (directive : LogDirective) (event : LogEvent) : Bool :=
  directive.isDynamic && directive.coversTarget event.target && directive.fields.isEmpty &&
    event.span.any fun span => directive.span.all (· == span)

/-- How specific a directive is: the length of its target, and how many fields it
demands. -/
def specificity (directive : LogDirective) : Nat × Nat :=
  ((directive.target.map fun target => target.utf8ByteSize + 1).getD 0, directive.fields.length)

/-- Is the directive at least as specific as the other one? -/
def isAsSpecific (directive other : LogDirective) : Bool :=
  let (targetSize, fieldCount) := directive.specificity
  let (otherTargetSize, otherFieldCount) := other.specificity
  otherTargetSize < targetSize ||
    (otherTargetSize == targetSize && otherFieldCount ≤ fieldCount)

end LogDirective

namespace LogFilter

/-- What is written when nothing was asked for. -/
def default : LogFilter :=
  [⟨none, none, [], LogLevel.info.rank⟩]

def defaultText : String :=
  "info"

/-- What is written when an empty list was asked for. -/
def errorsOnly : LogFilter :=
  [⟨none, none, [], LogLevel.error.rank⟩]

/-- Read directives separated by commas; the first that cannot be read decides. -/
def read (text : String) : Except LogDirectiveIssue LogFilter :=
  let parts := (Text.splitAtEach ',' text.toList).filter (!·.isEmpty)
  if parts.isEmpty then .ok errorsOnly
  else parts.mapM fun part => LogDirective.read (String.ofList part)

/-- The filter a variable asks for, if there is one. -/
def ofVariable? : Option String → Option LogFilter
  | none => some default
  | some text =>
    match read text with
    | .ok filter => some filter
    | .error .malformed => some default
    | .error .insideCharacter => none

/-- The most specific directive; of equally specific ones, the last. -/
def mostSpecific? (filter : LogFilter) : Option LogDirective :=
  filter.foldl
    (fun best directive =>
      if best.all directive.isAsSpecific then some directive else best) none

/-- The rank up to which an event is written, whatever span it lies in. -/
def rankFor (filter : LogFilter) (event : LogEvent) : Nat :=
  (mostSpecific? (filter.filter (·.coversEvent event))).elim 0 (·.rank)

def admits (filter : LogFilter) (event : LogEvent) : Bool :=
  event.level.rank ≤ filter.rankFor event ||
    filter.any fun directive => directive.coversSpan event && event.level.rank ≤ directive.rank

end LogFilter

end ServiceGroups
