/-!
# Structured log lines

A log record is an event name, a severity and a list of string fields. Each record is
written as one line of JSON: `{"event":...,"severity":...}` followed by the fields, stably
sorted by key. Strings escape `"`, `\`, newline, carriage return and tab by their short
forms and every other control character (Unicode class Cc) as `\u00xx`; all else,
non-ASCII included, is written as it is.

A `Log` holds a threshold and the lines written so far: a record is written only when its
severity is at or above the threshold.
-/

namespace CsvQuery

/-- Log severities, from least to most severe. -/
inductive Severity where
  | trace | info | warn | error | fatal
deriving DecidableEq, Repr, Inhabited

namespace Severity

/-- The position of a severity in the order `trace < info < warn < error < fatal`. -/
def rank : Severity → Nat
  | .trace => 0
  | .info => 1
  | .warn => 2
  | .error => 3
  | .fatal => 4

/-- The upper-case name. -/
def name : Severity → String
  | .trace => "TRACE"
  | .info => "INFO"
  | .warn => "WARN"
  | .error => "ERROR"
  | .fatal => "FATAL"

/-- All severities, in order. -/
def all : List Severity := [.trace, .info, .warn, .error, .fatal]

/-- Reads a level name, ignoring ASCII case and nothing else. -/
def ofLevel? (s : String) : Option Severity :=
  match s.toList.map Char.toLower with
  | ['t', 'r', 'a', 'c', 'e'] => some .trace
  | ['i', 'n', 'f', 'o'] => some .info
  | ['w', 'a', 'r', 'n'] => some .warn
  | ['e', 'r', 'r', 'o', 'r'] => some .error
  | ['f', 'a', 't', 'a', 'l'] => some .fatal
  | _ => none

end Severity

/-- The engine's own events, each with a fixed severity. -/
inductive Event where
  | catalogLoaded
  | catalogLineSkipped
  | planBuilt
  | predicateDropped
  | pipelineOpened
deriving DecidableEq, Repr, Inhabited

namespace Event

/-- The event's name in log lines. -/
def name : Event → String
  | .catalogLoaded => "CATALOG_LOADED"
  | .catalogLineSkipped => "CATALOG_LINE_SKIPPED"
  | .planBuilt => "PLAN_BUILT"
  | .predicateDropped => "PREDICATE_DROPPED"
  | .pipelineOpened => "PIPELINE_OPENED"

/-- Every event. -/
def all : List Event :=
  [.catalogLoaded, .catalogLineSkipped, .planBuilt, .predicateDropped, .pipelineOpened]

/-- The event with a given name. -/
def ofName? (s : String) : Option Event := all.find? (·.name == s)

/-- Skipped and dropped work is a warning, opening a pipeline a trace. -/
def severity : Event → Severity
  | .catalogLineSkipped | .predicateDropped => .warn
  | .pipelineOpened => .trace
  | .catalogLoaded | .planBuilt => .info

end Event

/-- One thing to log. -/
structure LogRecord where
  severity : Severity
  event : String
  fields : List (String × String) := []
deriving DecidableEq, Repr, Inhabited

/-- A record of one of the engine's events. -/
def Event.record (e : Event) (fields : List (String × String)) : LogRecord :=
  ⟨e.severity, e.name, fields⟩

/-- Whether a character is a control character (Unicode class Cc). -/
def isControl (c : Char) : Bool := c.toNat < 0x20 || (0x7F ≤ c.toNat && c.toNat < 0xA0)

/-- A hexadecimal digit, lower case. -/
def hexDigit (n : Nat) : Char := if n < 10 then Char.ofNat (48 + n) else Char.ofNat (87 + n)

/-- The escape of one character inside a log string. -/
def escapeLogChar (c : Char) : List Char :=
  if c = '"' then ['\\', '"']
  else if c = '\\' then ['\\', '\\']
  else if c = '\n' then ['\\', 'n']
  else if c = '\r' then ['\\', 'r']
  else if c = '\t' then ['\\', 't']
  else if isControl c then
    ['\\', 'u', hexDigit (c.toNat / 4096 % 16), hexDigit (c.toNat / 256 % 16),
     hexDigit (c.toNat / 16 % 16), hexDigit (c.toNat % 16)]
  else [c]

/-- A string escaped for a log line. -/
def escapeLog (s : String) : String := String.ofList (s.toList.flatMap escapeLogChar)

namespace LogRecord

/-- The fields, stably sorted by key. -/
def sortedFields (r : LogRecord) : List (String × String) :=
  r.fields.mergeSort fun a b => decide (a.1 ≤ b.1)

/-- The JSON line of a record, without its line break. -/
def line (r : LogRecord) : String :=
  "\x7b\"event\":\"" ++ escapeLog r.event ++ "\",\"severity\":\"" ++ r.severity.name ++ "\""
    ++ String.join (r.sortedFields.map fun (k, v) =>
      ",\"" ++ escapeLog k ++ "\":\"" ++ escapeLog v ++ "\"")
    ++ "\x7d"

end LogRecord

/-- A logger's state: the threshold and the records written so far, oldest first. -/
structure Log where
  threshold : Severity := .info
  written : List LogRecord := []
deriving DecidableEq, Repr, Inhabited

namespace Log

/-- Whether a record of severity `s` is written. -/
def enabled (l : Log) (s : Severity) : Bool := l.threshold.rank ≤ s.rank

/-- Writes a record if its severity reaches the threshold. -/
def write (l : Log) (r : LogRecord) : Log :=
  if l.enabled r.severity then { l with written := l.written ++ [r] } else l

/-- Writes records in order. -/
def writeAll (l : Log) (rs : List LogRecord) : Log := rs.foldl write l

/-- The lines written, oldest first. -/
def lines (l : Log) : List String := l.written.map LogRecord.line

end Log

end CsvQuery
