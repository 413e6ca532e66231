import Telemetry.Metric.Basic
import Telemetry.Retry
/-!
What can go wrong in a store. A failure to reach the snapshot file or the database may pass; all
others last.
-/

namespace Telemetry

inductive FileFault where
  | isDirectory
  | noSuchPlace
  | notText
deriving DecidableEq, Repr

namespace FileFault

def message : FileFault → String
  | .isDirectory => "Is a directory"
  | .noSuchPlace => "No such file or directory"
  | .notText => "stream did not contain valid UTF-8"

end FileFault

inductive TableFault where
  | refusedRow
  | missingValue
  | unknownKind
  | notSeeded (kind : Kind)
  | other (reason : String)
deriving DecidableEq, Repr

namespace TableFault

def message : TableFault → String
  | .refusedRow => "the row was refused"
  | .missingValue => "NOT NULL constraint failed: metrics.value"
  | .unknownKind => "FOREIGN KEY constraint failed"
  | .notSeeded kind => "metric type " ++ kind.word ++ " is not seeded"
  | .other reason => reason

end TableFault

inductive StorageError where
  | fileUnavailable (path : String) (fault : FileFault)
  | connection (reason : String)
  | table (fault : TableFault)
  | unsupported (operation backend : String)
  | notFound (kind : Kind) (name : String)
  | metric (error : MetricError)
  | malformedSnapshot
deriving DecidableEq, Repr

namespace StorageError

def message : StorageError → String
  | .fileUnavailable path fault =>
    "Storage: snapshot file " ++ path ++ " unavailable: " ++ fault.message
  | .connection reason => "Storage: database connection error: " ++ reason
  | .table fault => "Storage: database error: " ++ fault.message
  | .unsupported operation backend =>
    "Storage: " ++ operation ++ " is not supported by the " ++ backend ++ " backend"
  | .notFound kind name => "Storage: metric " ++ kind.word ++ "/" ++ name ++ " not found"
  | .metric error => "Storage: " ++ error.message
  | .malformedSnapshot => "Storage: snapshot JSON error: not a snapshot"

def label : StorageError → String
  | .fileUnavailable .. => "FileUnavailable"
  | .connection _ => "DatabaseConnection"
  | .table _ => "Database"
  | .unsupported .. => "Unsupported"
  | .notFound .. => "NotFound"
  | .metric _ => "Metric"
  | .malformedSnapshot => "Json"

def isTransient : StorageError → Bool
  | .fileUnavailable .. | .connection _ => true
  | _ => false

instance : Failure StorageError := ⟨isTransient, message⟩

end StorageError

/-- What a database driver reports, as far as it tells a lost connection from other failures. -/
inductive DriverError where
  | io
  | poolTimedOut
  | poolClosed
  | workerCrashed
  /-- The database refused the statement, possibly with a code of its standard. -/
  | database (code : Option String)
  | other
deriving DecidableEq, Repr

namespace DriverError

/-- Codes of class 08 stand for connection failures. -/
def isConnection : DriverError → Bool
  | .io | .poolTimedOut | .poolClosed | .workerCrashed => true
  | .database code => (code.map fun text => text.startsWith "08").getD false
  | .other => false

end DriverError

inductive MapperError where
  | connect
  | acquire
  | execute (cause : Option DriverError)
  | query (cause : Option DriverError)
  | other
deriving DecidableEq, Repr

namespace MapperError

def isConnection : MapperError → Bool
  | .connect | .acquire => true
  | .execute cause | .query cause => (cause.map DriverError.isConnection).getD false
  | .other => false

def toStorage (error : MapperError) : StorageError :=
  if error.isConnection then .connection "the connection was lost"
  else .table (.other "the statement failed")

end MapperError

end Telemetry
