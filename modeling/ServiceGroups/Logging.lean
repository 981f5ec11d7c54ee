import ServiceGroups.Failure
import ServiceGroups.Json.Value
import ServiceGroups.Text.Blank

/-!
# Logging

Log lines are written as JSON or as plain text.  An event has a level, a target,
which names the part of the program it comes from, and a message; it may lie in a
span, a named stretch of work of the same target.
-/

namespace ServiceGroups

/-- How log lines are written. -/
inductive LogFormat where
  | json
  | pretty
deriving DecidableEq, Repr

namespace LogFormat

/-- Read a format; case and blanks around it do not matter. -/
def read? (text : String) : Option LogFormat :=
  match String.ofList ((Text.trim text).toList.map Char.toLower) with
  | "json" => some .json
  | "pretty" | "text" => some .pretty
  | _ => none

/-- The format a variable asks for; unset means JSON. -/
def ofVariable : Option String → Except Failure LogFormat
  | none => .ok .json
  | some text =>
    match read? text with
    | some format => .ok format
    | none => .error (.invalidInput ("invalid TSG_LOG_FORMAT: " ++ text))

end LogFormat

/-- How important an event is, most important first. -/
inductive LogLevel where
  | error
  | warn
  | info
  | debug
  | trace
deriving DecidableEq, Repr

namespace LogLevel

/-- The place of a level in the order of importance. -/
def rank : LogLevel → Nat
  | error => 1
  | warn => 2
  | info => 3
  | debug => 4
  | trace => 5

def name : LogLevel → String
  | error => "ERROR"
  | warn => "WARN"
  | info => "INFO"
  | debug => "DEBUG"
  | trace => "TRACE"

end LogLevel

/-- A log event. -/
structure LogEvent where
  level : LogLevel
  target : String
  /-- The span that the event lies in. -/
  span : Option String
  message : String
deriving DecidableEq, Repr

/-- The name of the field that holds the message of an event, its only field. -/
def LogEvent.messageField : String :=
  "message"

def LogEvent.line (event : LogEvent) : String :=
  (Json.Value.object
    [("level", .string event.level.name),
      ("fields", .object [(messageField, .string event.message)]),
      ("target", .string event.target)]).text

end ServiceGroups
