/-!
Log events as data. Compilation never prints: it collects events, each with a
level, a message and named values, and leaves it to the caller to show them.
-/
namespace RestContract

inductive LogLevel where
  | warn
  | info
  | debug
  deriving DecidableEq, Repr

def LogLevel.name : LogLevel → String
  | warn => "WARN"
  | info => "INFO"
  | debug => "DEBUG"

inductive LogValue where
  | text (value : String)
  | count (value : Nat)
  | flag (value : Bool)
  deriving DecidableEq, Repr

structure LogEvent where
  level : LogLevel
  message : String
  fields : List (String × LogValue)
  deriving DecidableEq, Repr

end RestContract
