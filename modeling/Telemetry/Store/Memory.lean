import Telemetry.Store.File
import Telemetry.Store.Snapshot
import Telemetry.Text.Blank
/-!
The store in memory: a map of levels and a map of totals. A name may be in both. The store can be
saved to a file and restored from one; a restore replaces everything or, if it fails, nothing.
-/

namespace Telemetry

structure MemoryStore where
  gauges : NameMap Binary64
  counters : NameMap Int64

namespace MemoryStore

def empty : MemoryStore := ⟨.empty, .empty⟩

instance : Inhabited MemoryStore := ⟨empty⟩

def backend : String := "memory"

/-- The total of a name after a delta; a name that is not there counts from zero. -/
def totalAfter (counters : NameMap Int64) (name : String) (delta : Int64) : Int64 :=
  (counters.find? name).getD 0 + delta

/-- Merges a metric and gives what is stored afterwards. -/
def update (store : MemoryStore) (metric : Metric) : Metric × MemoryStore :=
  match metric.sample with
  | .gauge level =>
    (metric, { store with gauges := store.gauges.insert metric.name level })
  | .counter delta =>
    let total := totalAfter store.counters metric.name delta
    (.counter metric.name total,
      { store with counters := store.counters.insert metric.name total })

def mergeLevel (gauges : NameMap Binary64) (metric : Metric) : NameMap Binary64 :=
  match metric.sample with
  | .gauge level => gauges.insert metric.name level
  | .counter _ => gauges

def mergeTotal (counters : NameMap Int64) (metric : Metric) : NameMap Int64 :=
  match metric.sample with
  | .gauge _ => counters
  | .counter delta => counters.insert metric.name (totalAfter counters metric.name delta)

/-- Merges metrics as one unit: the levels of all gauges and the totals of all counters. -/
def updateAll (store : MemoryStore) (metrics : List Metric) : MemoryStore :=
  ⟨metrics.foldl mergeLevel store.gauges, metrics.foldl mergeTotal store.counters⟩

def find? (store : MemoryStore) (kind : Kind) (name : String) : Option Sample :=
  match kind with
  | .gauge => (store.gauges.find? name).map .gauge
  | .counter => (store.counters.find? name).map .counter

def get (store : MemoryStore) (kind : Kind) (name : String) : Except StorageError Metric :=
  match store.find? kind name with
  | some sample => .ok ⟨name, sample⟩
  | none => .error (.notFound kind name)

/-- All metrics, the gauges first. -/
def list (store : MemoryStore) : List Metric :=
  (store.gauges.entries.map fun (name, level) => Metric.gauge name level) ++
    store.counters.entries.map fun (name, total) => Metric.counter name total

def snapshot (store : MemoryStore) : Snapshot :=
  { gauges := store.gauges.map fun name level => ⟨name, .gauge, level⟩
    counters := store.counters.map fun name total => ⟨name, .counter, total⟩ }

/-- The values of a section, all of whose entries state its kind. -/
def sectionValues (kind : Kind) (entries : NameMap (SnapshotEntry α)) :
    Except StorageError (NameMap α) :=
  match entries.entries.find? fun (_, entry) => entry.kind != kind with
  | some (_, entry) => .error (.metric (.invalidKind (.misplaced entry.kind kind)))
  | none => .ok (entries.map fun _ entry => entry.value)

/-- The store that a snapshot describes. The names are those that lead to the entries. -/
def ofSnapshot (snapshot : Snapshot) : Except StorageError MemoryStore := do
  let gauges ← sectionValues .gauge snapshot.gauges
  let counters ← sectionValues .counter snapshot.counters
  return ⟨gauges, counters⟩

def save (store : MemoryStore) (file : SnapshotFile) : Except StorageError SnapshotFile :=
  file.write store.snapshot.write

/-- The store that a text in a snapshot file describes; blanks alone are an empty store. -/
def ofText (text : String) : Except StorageError MemoryStore :=
  if Text.isBlankText text then .ok empty
  else
    match Snapshot.read? (Bytes.ofText text) with
    | some snapshot => ofSnapshot snapshot
    | none => .error .malformedSnapshot

/-- The store that a file describes; without a file it is empty. -/
def ofFile (file : SnapshotFile) : Except StorageError MemoryStore := do
  match ← file.read with
  | none => return empty
  | some text => ofText text

def restore (store : MemoryStore) (file : SnapshotFile) : Except StorageError Unit × MemoryStore :=
  match ofFile file with
  | .ok restored => (.ok (), restored)
  | .error error => (.error error, store)

end MemoryStore

end Telemetry
