/-!
# Log records

What an operation has to tell beside its result is a list of records, oldest first.
-/

set_option autoImplicit false

namespace JavaScribe

/-- How much a record matters. -/
inductive LogLevel where
  | debug
  | info
  | warning
  | error
deriving DecidableEq, Repr

/-- The name of a level as it is logged. -/
def LogLevel.name : LogLevel → String
  | .debug => "DEBUG"
  | .info => "INFO"
  | .warning => "WARNING"
  | .error => "ERROR"

/-- A message with its level. -/
structure LogRecord where
  level : LogLevel
  message : String
deriving DecidableEq, Repr

/-- Records, oldest first. -/
abbrev Log := List LogRecord

/-- Warnings as records of their level. -/
def Log.ofWarnings (ws : List String) : Log := ws.map fun w => ⟨.warning, w⟩

end JavaScribe
