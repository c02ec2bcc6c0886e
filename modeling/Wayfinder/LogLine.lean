/-!
# Log lines
-/

namespace Wayfinder

/-- How much attention a log line asks for. -/
inductive Severity where
  | debug
  | info
  | warning
  deriving DecidableEq, Repr

namespace Severity

def label : Severity → String
  | .debug => "DEBUG"
  | .info => "INFO"
  | .warning => "WARNING"

end Severity

/-- One line of the log. -/
structure LogLine where
  severity : Severity
  text : String
  deriving DecidableEq, Repr

namespace LogLine

/-- The line with its severity in front. -/
def render (line : LogLine) : String :=
  line.severity.label ++ " " ++ line.text

end LogLine

end Wayfinder
