/-!
# Notes about a run

Notes are for whoever runs an analysis; they never change its result.
-/

namespace FlowLint

/-- How important a note is. -/
inductive LogLevel where
  | debug | info | warning | error
  deriving Repr, DecidableEq, Inhabited

/-- The name of a level. -/
def LogLevel.name : LogLevel → String
  | debug => "DEBUG"
  | info => "INFO"
  | warning => "WARNING"
  | error => "ERROR"

/-- A note. -/
structure LogEntry where
  level : LogLevel
  text : String
  deriving Repr, DecidableEq, Inhabited

end FlowLint
