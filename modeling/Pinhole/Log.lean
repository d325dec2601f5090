/-!
# Log lines

A line has a level and a message.
-/

namespace Pinhole

inductive LogLevel where
  | error
  | warn
  | info
deriving DecidableEq, Repr

def LogLevel.name : LogLevel → String
  | error => "ERROR"
  | warn => "WARN"
  | info => "INFO"

structure LogLine where
  level : LogLevel
  message : String
deriving DecidableEq, Repr

end Pinhole
