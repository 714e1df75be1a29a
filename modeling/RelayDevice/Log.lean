/-!
# Log lines

What a device reports while it runs. Only warnings and errors are kept: they tell of frames that
were dropped, of connections that failed and of applications that did.
-/

namespace RelayDevice

/-- How grave a line is. -/
inductive LogLevel
  | warning
  | error
deriving DecidableEq, Repr

/-- The word for how grave a line is. -/
def LogLevel.word : LogLevel → String
  | warning => "WARN"
  | error => "ERROR"

/-- A line of the log. -/
structure LogLine where
  level : LogLevel
  message : String
deriving DecidableEq, Repr

namespace LogLine

/-- A warning. -/
def warn (message : String) : LogLine := ⟨.warning, message⟩

/-- An error. -/
def error (message : String) : LogLine := ⟨.error, message⟩

/-- The line behind its level. -/
def text (l : LogLine) : String := l.level.word ++ " " ++ l.message

end LogLine

end RelayDevice
