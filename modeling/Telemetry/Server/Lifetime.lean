import Telemetry.Server.Launch
/-!
Servers one after another. A tenure is what becomes of one set of settings: a server is launched,
answers its visitors beside its snapshotter until it is cancelled, and is closed; or it does not
start. What tenures have in common is the place of the snapshot, which each finds as the one before
it left it.
-/

namespace Telemetry

/-- A request that comes to a server, in milliseconds since the server was ready. -/
structure Visit where
  instant : Nat
  framing : Framing
  trace : String
  request : Http.Request

def Application.visited (application : Application σ) (visit : Visit) (session : Session σ) :
    Session σ :=
  let current := { session with now := max session.now visit.instant }
  ((application.answer visit.framing visit.trace visit.request).run current).2

def Session.save (backend : Backend σ) : StoreOperation (Session σ) Unit := fun now session =>
  let (answer, store) := backend.save now session.store
  (answer, { session with store })

/-- The clock that saves the store in the background, unless each write is followed by a save or
there is nowhere to save to. -/
def ServerConfig.snapshotter? (config : ServerConfig) :
    Option (Snapshotter (Session ServerStore)) :=
  if config.usesDatabase || config.snapshotPath?.isNone then none
  else
    config.storePeriod?.map fun seconds =>
      ⟨1000 * seconds, .standard, Session.save Backend.server⟩

namespace Server

/-- Answers visitors, in their order, beside the snapshotter, which is cancelled at the instant
`stop`. Requests that are on their way then are still answered. -/
def serve (config : ServerConfig) (stop : Nat) (visits : List Visit) (server : Server) : Server :=
  let timeline : Timeline (Session ServerStore) :=
    visits.map fun visit => (visit.instant, server.application.visited visit)
  match config.snapshotter? with
  | some snapshotter => { server with session := snapshotter.run stop timeline server.session }
  | none =>
    { server with
      session := timeline.foldl (fun session change => change.2 session) server.session }

end Server

/-- One set of settings and what happens under it. -/
structure Tenure where
  config : ServerConfig
  /-- What the server finds around it, but for the snapshot. -/
  surroundings : Surroundings
  cancelled : Option Nat
  visits : List Visit
  /-- When the snapshotter is cancelled, in milliseconds since the server was ready. -/
  stop : Nat

namespace Tenure

/-- The surroundings with what was left at the place of the snapshot. -/
def found (tenure : Tenure) (left : FileNode) : Surroundings :=
  { tenure.surroundings with snapshot := left }

def start (tenure : Tenure) (left : FileNode) : Except StartupFault Server × Launching :=
  Server.start tenure.config (tenure.found left) tenure.cancelled

/-- The server at the end, if there was a store to be served. Where a listener cannot be bound,
nobody visits and the store is not closed, but the snapshotter has been at work. -/
def end? (tenure : Tenure) (left : FileNode) : Option Server :=
  let readied := (Server.ready tenure.config (tenure.found left) tenure.cancelled).run.run ⟨0, []⟩
  match readied with
  | (.error _, _) => none
  | (.ok server, launching) =>
    match ((Server.listen tenure.config (tenure.found left)).run.run launching).1 with
    | .error _ => some (server.serve tenure.config tenure.stop [])
    | .ok _ => some (server.serve tenure.config tenure.stop tenure.visits).stop.2

def leave (tenure : Tenure) (left : FileNode) : FileNode :=
  match (tenure.end? left).bind fun server => server.session.store.file? with
  | some file => file.node
  | none => left

def leaveAll (tenures : List Tenure) (left : FileNode) : FileNode :=
  tenures.foldl (fun left tenure => tenure.leave left) left

end Tenure

end Telemetry
