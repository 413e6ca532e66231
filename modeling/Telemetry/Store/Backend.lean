import Telemetry.Store.Memory
import Telemetry.Store.Table
/-!
Backends: what a service asks of a store, whatever the store is. An operation is told the instant
at which it happens, in milliseconds, and takes the state of the store to an answer and the next
state.
-/

namespace Telemetry

abbrev StoreOperation (σ α : Type) := Nat → σ → Except StorageError α × σ

structure Backend (σ : Type) where
  name : String
  update : Metric → StoreOperation σ Metric
  /-- Merges metrics as one unit. -/
  updateAll : List Metric → StoreOperation σ Unit
  get : Kind → String → StoreOperation σ Metric
  list : StoreOperation σ (List Metric)
  save : StoreOperation σ Unit
  restore : StoreOperation σ Unit
  ping : StoreOperation σ Unit
  close : StoreOperation σ Unit

/-- A store in memory with the file that its snapshots go to, if there is one. -/
structure FiledStore where
  store : MemoryStore
  file : Option SnapshotFile

namespace FiledStore

/-- Writes the snapshot to the file; a failure leaves the file as it is. -/
def save (host : FiledStore) : Except StorageError Unit × FiledStore :=
  match host.file with
  | none => (.error (.unsupported "save" MemoryStore.backend), host)
  | some file =>
    match host.store.save file with
    | .ok written => (.ok (), { host with file := some written })
    | .error error => (.error error, host)

def restore (host : FiledStore) : Except StorageError Unit × FiledStore :=
  match host.file with
  | none => (.error (.unsupported "restore" MemoryStore.backend), host)
  | some file =>
    let (answer, store) := host.store.restore file
    (answer, { host with store })

/-- A store with a file leaves a last snapshot behind. -/
def close (host : FiledStore) : Except StorageError Unit × FiledStore :=
  if host.file.isSome then host.save else (.ok (), host)

end FiledStore

namespace Backend

def memory : Backend FiledStore where
  name := MemoryStore.backend
  update metric _ host :=
    let (stored, store) := host.store.update metric
    (.ok stored, { host with store })
  updateAll metrics _ host := (.ok (), { host with store := host.store.updateAll metrics })
  get kind name _ host := (host.store.get kind name, host)
  list _ host := (.ok host.store.list, host)
  save _ host := host.save
  restore _ host := host.restore
  ping _ host := (.error (.unsupported "ping" MemoryStore.backend), host)
  close _ host := host.close

def table : Backend TableStore where
  name := TableStore.backend
  update metric _ store := store.update metric
  updateAll metrics _ store := store.updateAll metrics
  get kind name _ store := (store.get kind name, store)
  list _ store := (store.list, store)
  save _ store := (.error (.unsupported "save" TableStore.backend), store)
  restore _ store := (.error (.unsupported "restore" TableStore.backend), store)
  ping _ store := (store.ping, store)
  close _ store := (.ok (), store.close)

end Backend

end Telemetry
