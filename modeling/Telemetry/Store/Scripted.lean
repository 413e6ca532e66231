import Telemetry.Store.Backend
/-!
Stores whose calls can fail. A script says which of the calls to come fail before they reach the
store, and how; a call for which it says nothing works. The calls are recorded with their instants,
so that what is stated of every script is stated of every way in which a store can be out of reach.
-/

namespace Telemetry

inductive StoreCall where
  | update
  | updateAll
  | get
  | list
  | save
  | ping
deriving DecidableEq, Repr

structure ScriptedStore (σ : Type) where
  inner : σ
  /-- The faults of the calls to come; `none` lets a call through. -/
  script : List (Option StorageError)
  /-- The calls so far, the latest first. -/
  calls : List (StoreCall × Nat)

namespace ScriptedStore

/-- A call that fails if the script says so, and is recorded in either case. -/
def guarded (call : StoreCall) (operation : StoreOperation σ α) :
    StoreOperation (ScriptedStore σ) α :=
  fun now store =>
    let noted := { store with script := store.script.tail, calls := (call, now) :: store.calls }
    match store.script.head?.join with
    | some fault => (.error fault, noted)
    | none =>
      let (answer, inner) := operation now store.inner
      (answer, { noted with inner })

def plain (operation : StoreOperation σ α) : StoreOperation (ScriptedStore σ) α :=
  fun now store =>
    let (answer, inner) := operation now store.inner
    (answer, { store with inner })

end ScriptedStore

namespace Backend

def scripted (inner : Backend σ) : Backend (ScriptedStore σ) where
  name := inner.name
  update metric := ScriptedStore.guarded .update (inner.update metric)
  updateAll metrics := ScriptedStore.guarded .updateAll (inner.updateAll metrics)
  get kind name := ScriptedStore.guarded .get (inner.get kind name)
  list := ScriptedStore.guarded .list inner.list
  save := ScriptedStore.guarded .save inner.save
  restore := ScriptedStore.plain inner.restore
  ping := ScriptedStore.guarded .ping inner.ping
  close := ScriptedStore.plain inner.close

end Backend

end Telemetry
