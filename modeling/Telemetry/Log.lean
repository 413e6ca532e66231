import Telemetry.Bytes
/-!
Log events: a level, a fixed message and named values, all of them texts.
-/

namespace Telemetry.Log

inductive Level where
  | info
  | warn
  | error
deriving DecidableEq, Repr

namespace Level

def word : Level → String
  | .info => "INFO"
  | .warn => "WARN"
  | .error => "ERROR"

end Level

structure Event where
  level : Level
  message : String
  fields : List (String × String)
deriving DecidableEq, Repr

end Telemetry.Log
