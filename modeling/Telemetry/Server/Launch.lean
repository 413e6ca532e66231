import Telemetry.Net.Endpoint
import Telemetry.Server.Application
import Telemetry.Server.Snapshotter
/-!
The life of a server: it is launched from settings in surroundings, serves callers, and is closed.
A launch goes through its steps in one order and stops at the first that fails.
-/

namespace Telemetry

inductive Phase where
  | init
  | restoring
  | serving
  | draining
  | closed
deriving DecidableEq, Repr

namespace Phase

def all : List Phase := [.init, .restoring, .serving, .draining, .closed]

def word : Phase → String
  | .init => "init"
  | .restoring => "restoring"
  | .serving => "serving"
  | .draining => "draining"
  | .closed => "closed"

end Phase

inductive StartupFault where
  | gateway (fault : GatewayFault)
  | database (cause : StorageError)
  | restore (path : String) (cause : StorageError)
  | listen (address : String)
  | listenForCalls (address : String)
  | close (cause : StorageError)
deriving DecidableEq, Repr

namespace StartupFault

def message : StartupFault → String
  | .gateway fault => fault.message
  | .database _ => "connect to database"
  | .restore path _ => "restore snapshot " ++ path
  | .listen address => "bind HTTP listener on " ++ address
  | .listenForCalls address => "bind RPC listener on " ++ address
  | .close _ => "close storage"

def cause? : StartupFault → Option (String × String)
  | .gateway fault => some (fault.cause.label, fault.cause.message)
  | .database cause | .restore _ cause | .close cause => some (cause.label, cause.message)
  | .listen _ | .listenForCalls _ => none

end StartupFault

inductive ServerStore where
  | memory (host : FiledStore)
  | table (store : TableStore)

namespace ServerStore

def through (memory : StoreOperation FiledStore α) (table : StoreOperation TableStore α) :
    StoreOperation ServerStore α := fun now store =>
  match store with
  | .memory host =>
    let (answer, next) := memory now host
    (answer, .memory next)
  | .table connection =>
    let (answer, next) := table now connection
    (answer, .table next)

def metrics : ServerStore → List Metric
  | .memory host => host.store.list
  | .table connection => connection.list.toOption.getD []

def file? : ServerStore → Option SnapshotFile
  | .memory host => host.file
  | .table _ => none

end ServerStore

def Backend.server : Backend ServerStore where
  name := "server"
  update metric := ServerStore.through (Backend.memory.update metric) (Backend.table.update metric)
  updateAll metrics :=
    ServerStore.through (Backend.memory.updateAll metrics) (Backend.table.updateAll metrics)
  get kind name := ServerStore.through (Backend.memory.get kind name) (Backend.table.get kind name)
  list := ServerStore.through Backend.memory.list Backend.table.list
  save := ServerStore.through Backend.memory.save Backend.table.save
  restore := ServerStore.through Backend.memory.restore Backend.table.restore
  ping := ServerStore.through Backend.memory.ping Backend.table.ping
  close := ServerStore.through Backend.memory.close Backend.table.close

structure Surroundings where
  keyContent : Option Bytes
  snapshot : FileNode
  /-- The database that a name leads to, if there is one. -/
  database : String → Option Database
  canListen : String → Bool

structure Server where
  application : Application ServerStore
  session : Session ServerStore
  phase : Phase

/-- A launch on its way: the instant and what was logged. -/
structure Launching where
  now : Nat
  events : List Log.Event

abbrev Launch (α : Type) := ExceptT StartupFault (StateM Launching) α

namespace Server

/-- Repeats an operation by the standard schedule until the launch is cancelled. -/
def attempt (cancelled : Option Nat) (fault : StorageError → StartupFault)
    (operation : StoreOperation σ α) (state : σ) : Launch (α × σ) :=
  ExceptT.mk fun launching =>
    let outcome := Backoff.standard.retry cancelled operation launching.now state
    ((outcome.result.map fun answer => (answer, outcome.state)).mapError fault,
      ⟨outcome.finished, launching.events ++ outcome.events⟩)

def connect (surroundings : Surroundings) (name : String) : StoreOperation Unit TableStore :=
  fun _ state =>
    match surroundings.database name with
    | some database => (TableStore.connect database, state)
    | none => (.error (.connection "the database cannot be reached"), state)

def isRestored (config : ServerConfig) : Bool :=
  config.restore && !config.usesDatabase && config.snapshotPath?.isSome

def restored (config : ServerConfig) (cancelled : Option Nat) (store : ServerStore) :
    Launch ServerStore := do
  if isRestored config then
    let (_, next) ←
      attempt cancelled (.restore config.snapshotFile) Backend.server.restore store
    return next
  else return store

def openStore (config : ServerConfig) (surroundings : Surroundings) (cancelled : Option Nat) :
    Launch ServerStore := do
  if config.usesDatabase then
    let (connection, _) ←
      attempt cancelled .database (connect surroundings config.database) ()
    return .table connection
  else
    return .memory ⟨.empty, config.snapshotPath?.map fun path => ⟨path, surroundings.snapshot⟩⟩

/-- A server that is ready but for its listeners. -/
def ready (config : ServerConfig) (surroundings : Surroundings) (cancelled : Option Nat) :
    Launch Server := do
  let gateway ←
    match Gateway.ofConfig config surroundings.keyContent with
    | .ok gateway => pure gateway
    | .error fault => throw (.gateway fault)
  let fresh ← openStore config surroundings cancelled
  let store ← restored config cancelled fresh
  let launching ← get
  return {
    application := ⟨gateway, ⟨Backend.server, .standard, config.keepsFile⟩⟩
    session := ⟨store, launching.now, launching.events⟩
    phase := if isRestored config then .restoring else .init
  }

def listen (config : ServerConfig) (surroundings : Surroundings) : Launch Unit := do
  if !surroundings.canListen config.address then throw (.listen config.address)
  if !surroundings.canListen config.rpcAddress then throw (.listenForCalls config.rpcAddress)

def launch (config : ServerConfig) (surroundings : Surroundings) (cancelled : Option Nat) :
    Launch Server := do
  let server ← ready config surroundings cancelled
  listen config surroundings
  return server

def start (config : ServerConfig) (surroundings : Surroundings) (cancelled : Option Nat) :
    Except StartupFault Server × Launching :=
  (launch config surroundings cancelled).run.run ⟨0, []⟩

def stop (server : Server) : Except StartupFault Unit × Server :=
  let (answer, store) := Backend.server.close server.session.now server.session.store
  (answer.mapError .close,
    { server with session := { server.session with store }, phase := .closed })

end Server

end Telemetry
