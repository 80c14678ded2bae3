/-! Messages about the course of a run, beside its results. -/
namespace MalLint

/-- How important a message is. -/
inductive LogLevel where
  | debug
  | info
  | warning
  deriving DecidableEq, Repr

/-- The word for a level. -/
def LogLevel.name : LogLevel → String
  | .debug => "DEBUG"
  | .info => "INFO"
  | .warning => "WARNING"

/-- A message and its level. -/
structure LogRecord where
  level : LogLevel
  message : String
  deriving DecidableEq, Repr

/-- A message, opened by its level. -/
def LogRecord.render (record : LogRecord) : String :=
  s!"{record.level.name}: {record.message}"

end MalLint
