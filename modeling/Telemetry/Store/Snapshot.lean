import Telemetry.Json.Record
import Telemetry.Json.Writer
import Telemetry.Metric.Basic
import Telemetry.Store.NameMap
/-!
Snapshots: the document that a store in memory is saved as. It has a section for each kind, in
which every name leads to an entry that repeats the name and states the kind.
-/

namespace Telemetry

structure SnapshotEntry (α : Type) where
  name : String
  kind : Kind
  value : α
deriving DecidableEq, Repr

structure Snapshot where
  gauges : NameMap (SnapshotEntry Binary64)
  counters : NameMap (SnapshotEntry Int64)

namespace SnapshotEntry

def toJson (write : α → Json) (entry : SnapshotEntry α) : Json :=
  .ofMembers
    [("name", .ofText entry.name), ("type", .ofText entry.kind.word),
      ("value", write entry.value)]

/-- A kind by its word, or as the only member of an object without a value. -/
def kind? : Json → Option Kind
  | .string (some word) => Kind.ofWord? word
  | .object [(some word, .null)] => Kind.ofWord? word
  | _ => none

def ofJson? (read : Json → Option α) (document : Json) : Option (SnapshotEntry α) := do
  match ← Json.record? ["name", "type", "value"] document with
  | [name, kind, value] =>
    return {
      name := ← Json.required Json.text? name
      kind := ← Json.required kind? kind
      value := ← Json.required read value
    }
  | _ => none

end SnapshotEntry

namespace Snapshot

def empty : Snapshot := ⟨.empty, .empty⟩

def sectionToJson (write : α → Json) (entries : NameMap (SnapshotEntry α)) : Json :=
  .ofMembers (entries.entries.map fun (name, entry) => (name, entry.toJson write))

def toJson (snapshot : Snapshot) : Json :=
  .ofMembers
    [("gauges", sectionToJson Json.ofBinary64 snapshot.gauges),
      ("counters", sectionToJson Json.ofInt64 snapshot.counters)]

/-- A section; of entries under one name the last counts, and a missing section is empty. -/
def section? (read : Json → Option α) : Option Json → Option (NameMap (SnapshotEntry α))
  | none => some .empty
  | some (.object members) =>
    (members.mapM fun (member : Option String × Json) => do
      let name ← member.1
      let entry ← SnapshotEntry.ofJson? read member.2
      return (name, entry)).map NameMap.ofList
  | some _ => none

def ofJson? (document : Json) : Option Snapshot := do
  match ← Json.record? ["gauges", "counters"] document with
  | [gauges, counters] =>
    return ⟨← section? Json.binary64? gauges, ← section? Json.int64? counters⟩
  | _ => none

def write (snapshot : Snapshot) : Bytes := snapshot.toJson.pretty

def read? (document : Bytes) : Option Snapshot := (Json.read? document).bind ofJson?

end Snapshot

end Telemetry
