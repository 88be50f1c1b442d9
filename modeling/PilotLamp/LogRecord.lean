/-!
# Log records

A record has a severity, the name of the component that writes it, and a text. Severities are
ordered from error, the gravest, to trace.
-/

namespace PilotLamp

/-- How grave a log record is. -/
inductive Severity
  /-- Something failed. -/
  | error
  /-- Something is wrong, and work goes on. -/
  | warn
  /-- A step that a user wants to see. -/
  | info
  /-- A step that an author wants to see. -/
  | debug
  /-- Everything else. -/
  | trace
deriving DecidableEq, Repr

/-- The rank of a severity: one for the gravest. -/
def Severity.rank : Severity → Nat
  | error => 1
  | warn => 2
  | info => 3
  | debug => 4
  | trace => 5

/-- The word for a severity at the head of a log line. -/
def Severity.text : Severity → String
  | error => "ERROR"
  | warn => "WARN"
  | info => "INFO"
  | debug => "DEBUG"
  | trace => "TRACE"

/-- One log record. -/
structure LogRecord where
  /-- How grave it is. -/
  severity : Severity
  /-- The component that writes it. -/
  target : String
  /-- What it says. -/
  message : String
deriving DecidableEq, Repr

/-- The line that shows a record. -/
def LogRecord.line (record : LogRecord) : String :=
  record.severity.text ++ " " ++ record.target ++ ": " ++ record.message

end PilotLamp
