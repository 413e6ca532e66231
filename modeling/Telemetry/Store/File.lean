import Telemetry.Store.Error
/-!
The file that snapshots are written to: a path and what is found there.
-/

namespace Telemetry

inductive FileNode where
  | missing
  | content (octets : Bytes)
  | directory
  /-- The directory that the file would be in does not exist. -/
  | nowhere
deriving DecidableEq, Repr

structure SnapshotFile where
  path : String
  node : FileNode
deriving DecidableEq, Repr

namespace SnapshotFile

def write (file : SnapshotFile) (octets : Bytes) : Except StorageError SnapshotFile :=
  match file.node with
  | .missing | .content _ => .ok { file with node := .content octets }
  | .directory => .error (.fileUnavailable file.path .isDirectory)
  | .nowhere => .error (.fileUnavailable file.path .noSuchPlace)

/-- The text in the file, or nothing if there is no file. -/
def read (file : SnapshotFile) : Except StorageError (Option String) :=
  match file.node with
  | .missing | .nowhere => .ok none
  | .directory => .error (.fileUnavailable file.path .isDirectory)
  | .content octets =>
    match Bytes.text? octets with
    | some text => .ok (some text)
    | none => .error (.fileUnavailable file.path .notText)

def isWritable (file : SnapshotFile) : Bool :=
  match file.node with
  | .missing | .content _ => true
  | .directory | .nowhere => false

def octets? (file : SnapshotFile) : Option Bytes :=
  match file.node with
  | .content octets => some octets
  | _ => none

end SnapshotFile

end Telemetry
