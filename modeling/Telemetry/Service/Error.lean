import Telemetry.Rpc.Status
import Telemetry.Store.Error
/-!
Why a service refuses or fails, with the answer that each framing gives for it.
-/

namespace Telemetry

inductive ServiceError where
  /-- A write with a metric that cannot be. -/
  | invalid (error : MetricError)
  | badRequest (reason : String)
  /-- A read of a kind or a name that is not known. -/
  | notFound (reason : String)
  | storage (error : StorageError)
  | unsuccessful (reason : String)
deriving DecidableEq, Repr

namespace ServiceError

def message : ServiceError → String
  | .invalid error => error.message
  | .badRequest reason | .notFound reason => reason
  | .storage error => error.message
  | .unsuccessful reason => "unsuccessful request processing: " ++ reason

def label : ServiceError → String
  | .invalid _ => "Invalid"
  | .badRequest _ => "BadRequest"
  | .notFound _ => "NotFound"
  | .storage _ => "Storage"
  | .unsuccessful _ => "UnsuccessRequestProcessing"

def status : ServiceError → Nat
  | .invalid _ | .badRequest _ => 400
  | .notFound _ => 404
  | .storage _ | .unsuccessful _ => 500

def code : ServiceError → Rpc.Code
  | .invalid _ | .badRequest _ => .invalidArgument
  | .notFound _ => .notFound
  | .storage _ | .unsuccessful _ => .internal

def rpcStatus (error : ServiceError) : Rpc.Status := ⟨error.code, error.message⟩

def ofStorage : StorageError → ServiceError
  | .metric error => .invalid error
  | .notFound kind name => .notFound (StorageError.notFound kind name).message
  | error => .storage error

end ServiceError

end Telemetry
