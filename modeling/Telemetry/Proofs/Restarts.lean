import Telemetry.Proofs.Snapshots
import Telemetry.Proofs.Visits
/-!
Restarts lose and change nothing (`Tenure.serves_all_accepted`). A tenure is handed a file that
some store is restored from, and leaves one that the store with everything it accepted is restored
from (`Tenure.leave_restores`): a server that is closed saves its store last, and one that cannot
listen has at most saved what it found. Beside the visitors the snapshotter may save the store at
any time; saves keep what visits lead to (`Server.Awaits`).
-/

namespace Telemetry

/-! ### The snapshotter -/

section Snapshots

variable {σ : Type} {holds : Timeline σ → σ → Prop}

theorem Timeline.advance_holds
    (changes : ∀ instant change rest state,
      holds ((instant, change) :: rest) state → holds rest (change state))
    (now : Nat) (timeline : Timeline σ) {state : σ} (held : holds timeline state) :
    holds (timeline.advance now state).1 (timeline.advance now state).2 := by
  induction timeline generalizing state with
  | nil => exact held
  | cons event rest ih =>
    obtain ⟨instant, change⟩ := event
    unfold advance
    by_cases due : instant ≤ now
    · rw [if_pos due]
      exact ih (changes instant change rest state held)
    · rw [if_neg due]
      exact held

theorem Timeline.foldl_holds
    (changes : ∀ instant change rest state,
      holds ((instant, change) :: rest) state → holds rest (change state))
    (timeline : Timeline σ) {state : σ} (held : holds timeline state) :
    holds [] (timeline.foldl (fun current change => change.2 current) state) := by
  induction timeline generalizing state with
  | nil => exact held
  | cons event rest ih => exact ih (changes event.1 event.2 rest state held)

namespace Snapshotter

variable {snapshotter : Snapshotter σ}
  (changes : ∀ instant change rest state,
    holds ((instant, change) :: rest) state → holds rest (change state))
  (saves : ∀ now timeline state, holds timeline state →
    holds timeline (snapshotter.save now state).2)

include changes saves

theorem attempt_holds (now : Nat) (pair : Timeline σ × σ) (held : holds pair.1 pair.2) :
    holds (snapshotter.attempt now pair).2.1 (snapshotter.attempt now pair).2.2 :=
  saves now _ _ (Timeline.advance_holds changes now pair.1 held)

theorem runFrom_holds (stop steps due free : Nat) {pair : Timeline σ × σ}
    (held : holds pair.1 pair.2) :
    holds (snapshotter.runFrom stop steps due free pair).1
      (snapshotter.runFrom stop steps due free pair).2 := by
  -- Each save moves the next instant and the state, and changes nothing that the property sees.
  induction steps generalizing due free pair with
  | zero => exact held
  | succ steps ih =>
    unfold runFrom
    by_cases ended : stop ≤ max due free
    · simp only [if_pos ended]
      exact held
    · simp only [if_neg ended]
      apply ih
      have kept : ∀ now pair, (fun pair : Timeline σ × σ => holds pair.1 pair.2) pair →
          (fun pair : Timeline σ × σ => holds pair.1 pair.2) (snapshotter.attempt now pair).2 :=
        attempt_holds changes saves
      exact Backoff.state_retryFrom kept _ _ _ held

/-- What the changes around a snapshotter lead to, they lead to with its saves between them, if
these keep it. -/
theorem run_holds (stop : Nat) (timeline : Timeline σ) {state : σ}
    (held : holds timeline state) : holds [] (snapshotter.run stop timeline state) :=
  Timeline.foldl_holds changes _
    (runFrom_holds changes saves stop stop snapshotter.period 0 held)

end Snapshotter

end Snapshots

/-! ### Launches -/

/-- The settings of a server in memory whose store outlasts it, in a file at a path. -/
structure ServerConfig.Outlasts (path : String) (config : ServerConfig) : Prop where
  inMemory : config.usesDatabase = false
  filed : config.snapshotFile = path
  named : path ≠ ""
  restores : config.restore = true

/-- A file that a store is restored from, and that can be written again. -/
structure SnapshotFile.Restores (file : SnapshotFile) (store : MemoryStore) : Prop where
  read : MemoryStore.ofFile file = .ok store
  writable : file.isWritable = true

namespace ServerConfig.Outlasts

variable {path : String} {config : ServerConfig} (outlasts : config.Outlasts path)

include outlasts

theorem snapshotPath? : config.snapshotPath? = some path := by
  have filled : config.snapshotFile.isEmpty = false := by
    rw [outlasts.filed]
    exact String.isEmpty_eq_false_iff.mpr outlasts.named
  rw [ServerConfig.snapshotPath?, filled, outlasts.filed]
  rfl

theorem isRestored : Server.isRestored config = true := by
  rw [Server.isRestored, outlasts.restores, outlasts.inMemory, outlasts.snapshotPath?]
  rfl

end ServerConfig.Outlasts

namespace Server

variable {path : String} {config : ServerConfig} (surroundings : Surroundings)

theorem attempt_eq_ok {σ α : Type} (cancelled : Option Nat) (fault : StorageError → StartupFault)
    {operation : StoreOperation σ α} {state next : σ} {answer : α} {launching : Launching}
    (succeeds : operation launching.now state = (.ok answer, next)) :
    (attempt cancelled fault operation state).run.run launching =
      (.ok (answer, next), launching) := by
  have outcome : Backoff.standard.retry cancelled operation launching.now state =
      ⟨.ok answer, next, launching.now, []⟩ := by
    unfold Backoff.retry Backoff.retryFrom
    rw [succeeds]
  have whole : (attempt cancelled fault operation state).run.run launching =
      (((Backoff.standard.retry cancelled operation launching.now state).result.map fun answer =>
          (answer, (Backoff.standard.retry cancelled operation launching.now state).state)).mapError
          fault,
        ⟨(Backoff.standard.retry cancelled operation launching.now state).finished,
          launching.events ++
            (Backoff.standard.retry cancelled operation launching.now state).events⟩) := rfl
  rw [whole, outcome, List.append_nil]
  rfl

/-- A server that is ready, over a store from the file at a path. -/
def holding (config : ServerConfig) (gateway : Gateway) (path : String) (left : FileNode)
    (store : MemoryStore) : Server :=
  ⟨Application.server gateway .standard config.keepsFile,
    ⟨.memory ⟨store, some ⟨path, left⟩⟩, 0, []⟩, .restoring⟩

theorem ready_eq (outlasts : config.Outlasts path) {store : MemoryStore}
    (restores : (SnapshotFile.mk path surroundings.snapshot).Restores store)
    {gateway : Gateway} (described : Gateway.ofConfig config surroundings.keyContent = .ok gateway)
    (cancelled : Option Nat) :
    (ready config surroundings cancelled).run.run ⟨0, []⟩ =
      (.ok (holding config gateway path surroundings.snapshot store), ⟨0, []⟩) := by
  have opened : (openStore config surroundings cancelled).run.run ⟨0, []⟩ =
      (.ok (.memory ⟨.empty, some ⟨path, surroundings.snapshot⟩⟩), ⟨0, []⟩) := by
    rw [openStore, outlasts.inMemory, outlasts.snapshotPath?]
    rfl
  have found : Backend.server.restore 0 (.memory ⟨.empty, some ⟨path, surroundings.snapshot⟩⟩) =
      (.ok (), .memory ⟨store, some ⟨path, surroundings.snapshot⟩⟩) := by
    simp only [Backend.server, ServerStore.through, Backend.memory, FiledStore.restore,
      MemoryStore.restore, restores.read]
  have back : (restored config cancelled
      (.memory ⟨.empty, some ⟨path, surroundings.snapshot⟩⟩)).run.run ⟨0, []⟩ =
      (.ok (.memory ⟨store, some ⟨path, surroundings.snapshot⟩⟩), ⟨0, []⟩) := by
    rw [restored, if_pos outlasts.isRestored]
    exact run_bind_ok _ (attempt_eq_ok cancelled _ found)
  rw [ready, described]
  refine (run_bind_ok _ (rfl : _ = (Except.ok gateway, (⟨0, []⟩ : Launching)))).trans ?_
  refine (run_bind_ok _ opened).trans ?_
  refine (run_bind_ok _ back).trans ?_
  rw [outlasts.isRestored]
  rfl

theorem ready_eq_error {fault : GatewayFault}
    (refused : Gateway.ofConfig config surroundings.keyContent = .error fault)
    (cancelled : Option Nat) :
    (ready config surroundings cancelled).run.run ⟨0, []⟩ =
      (.error (.gateway fault), ⟨0, []⟩) := by
  rw [ready, refused]
  exact run_bind_error _ rfl

def listens (config : ServerConfig) (surroundings : Surroundings) : Bool :=
  surroundings.canListen config.address && surroundings.canListen config.rpcAddress

theorem listen_eq_ok (free : listens config surroundings = true) (launching : Launching) :
    (listen config surroundings).run.run launching = (.ok (), launching) := by
  rw [listens, Bool.and_eq_true] at free
  rw [listen, free.1, free.2]
  rfl

theorem listen_eq_error (taken : listens config surroundings = false) (launching : Launching) :
    ∃ fault, (listen config surroundings).run.run launching = (.error fault, launching) := by
  rw [listens, Bool.and_eq_false_iff] at taken
  rw [listen]
  cases first : surroundings.canListen config.address with
  | false => exact ⟨_, rfl⟩
  | true =>
    rcases taken with impossible | second
    · rw [first] at impossible
      cases impossible
    · rw [second]
      exact ⟨_, rfl⟩

theorem start_eq (cancelled : Option Nat) {server : Server}
    (readied : (ready config surroundings cancelled).run.run ⟨0, []⟩ = (.ok server, ⟨0, []⟩))
    (free : listens config surroundings = true) :
    start config surroundings cancelled = (.ok server, ⟨0, []⟩) := by
  rw [start, launch]
  refine (run_bind_ok _ readied).trans ?_
  exact run_bind_ok _ (listen_eq_ok surroundings free ⟨0, []⟩)

/-! ### Service -/

def accepted (gateway : Gateway) (visits : List Visit) : List Metric :=
  visits.flatMap fun visit => gateway.accepted visit.framing visit.request

theorem save_of_snapshotter? {snapshotter : Snapshotter (Session ServerStore)}
    (set : config.snapshotter? = some snapshotter) :
    snapshotter.save = Session.save Backend.server := by
  unfold ServerConfig.snapshotter? at set
  split at set
  · cases set
  · obtain ⟨seconds, _period, rfl⟩ := Option.map_eq_some_iff.mp set
    rfl

/-- What visits and saves lead to in any order, the service of a server leads to. -/
theorem serve_holds {holds : Timeline (Session ServerStore) → Session ServerStore → Prop}
    (changes : ∀ instant change rest session,
      holds ((instant, change) :: rest) session → holds rest (change session))
    (saves : ∀ now timeline session, holds timeline session →
      holds timeline (Session.save Backend.server now session).2)
    (stop : Nat) (visits : List Visit) (server : Server)
    (held : holds (visits.map fun visit => (visit.instant, server.application.visited visit))
      server.session) :
    holds [] (server.serve config stop visits).session := by
  unfold serve
  cases set : config.snapshotter? with
  | none => exact Timeline.foldl_holds changes _ held
  | some snapshotter =>
    refine Snapshotter.run_holds changes ?_ stop _ held
    rw [save_of_snapshotter? set]
    exact saves

theorem save_holds {store : MemoryStore} {session : Session ServerStore}
    (held : session.Holds path store) (now : Nat) :
    (Session.save Backend.server now session).2.Holds path store := by
  obtain ⟨node, kept, writable⟩ := held
  refine ⟨.content store.snapshot.write, ?_, rfl⟩
  simp only [Session.save, kept, Backend.server, ServerStore.through, Backend.memory,
    FiledStore.save_eq store writable]

variable (gateway : Gateway) (backoff : Backoff) (keepsFile : Bool)

def timeline (visits : List Visit) : Timeline (Session ServerStore) :=
  visits.map fun visit =>
    (visit.instant, (Application.server gateway backoff keepsFile).visited visit)

/-- With what the visits to come bring, the store will be the given one. -/
def Awaits (path : String) (last : MemoryStore) (events : Timeline (Session ServerStore))
    (session : Session ServerStore) : Prop :=
  ∃ (visits : List Visit) (current : MemoryStore),
    events = timeline gateway backoff keepsFile visits ∧ session.Holds path current ∧
      current.merge (accepted gateway visits) = last

theorem awaits_visited {last : MemoryStore} (instant : Nat)
    (change : Session ServerStore → Session ServerStore) (rest : Timeline (Session ServerStore))
    (session : Session ServerStore)
    (awaits : Awaits gateway backoff keepsFile path last ((instant, change) :: rest) session) :
    Awaits gateway backoff keepsFile path last rest (change session) := by
  obtain ⟨visits, current, due, holds, merged⟩ := awaits
  cases visits with
  | nil => cases due
  | cons visit others =>
    cases due
    refine ⟨others, _, rfl, Application.visited_holds gateway backoff keepsFile path current
      visit holds, ?_⟩
    rw [← MemoryStore.merge_append]
    exact merged

theorem awaits_saved {last : MemoryStore} (now : Nat) (events : Timeline (Session ServerStore))
    (session : Session ServerStore)
    (awaits : Awaits gateway backoff keepsFile path last events session) :
    Awaits gateway backoff keepsFile path last events
      (Session.save Backend.server now session).2 := by
  obtain ⟨visits, current, due, holds, merged⟩ := awaits
  exact ⟨visits, current, due, save_holds holds now, merged⟩

/-- A server with visitors merges what they bring, beside its snapshotter. -/
theorem serve_merges (config : ServerConfig) (store : MemoryStore) {left : FileNode}
    (writable : (SnapshotFile.mk path left).isWritable = true) (stop : Nat)
    (visits : List Visit) :
    (serve config stop visits (holding config gateway path left store)).session.Holds path
      (store.merge (accepted gateway visits)) := by
  -- At the end nobody is awaited any more, so that the store is the one that was awaited.
  obtain ⟨rest, current, done, holds, merged⟩ := serve_holds
    (awaits_visited gateway .standard config.keepsFile)
    (awaits_saved gateway .standard config.keepsFile)
    stop visits (holding config gateway path left store)
    ⟨visits, store, rfl, ⟨left, rfl, writable⟩, rfl⟩
  cases rest with
  | nil =>
    rw [← merged]
    exact holds
  | cons visit others => cases done

/-- A session over a store that is also in its file, with nobody to come. -/
def Rests (path : String) (store : MemoryStore) (events : Timeline (Session ServerStore))
    (session : Session ServerStore) : Prop :=
  events = [] ∧ ∃ node, session.store = .memory ⟨store, some ⟨path, node⟩⟩ ∧
    (SnapshotFile.mk path node).Restores store

theorem serve_rests {store : MemoryStore} (kept : store.ReadsBack) {server : Server}
    (rests : Rests path store [] server.session) (stop : Nat) :
    Rests path store [] (serve config stop [] server).session := by
  refine serve_holds ?_ ?_ stop [] server rests
  · rintro instant change rest session ⟨due, _others⟩
    cases due
  · rintro now events session ⟨nobody, node, held, restores⟩
    refine ⟨nobody, .content store.snapshot.write, ?_, ⟨MemoryStore.ofFile_write kept path, rfl⟩⟩
    simp only [Session.save, held, Backend.server, ServerStore.through, Backend.memory,
      FiledStore.save_eq store restores.writable]

theorem stop_eq {server : Server} {store : MemoryStore}
    (held : server.session.Holds path store) :
    server.stop.2.session.store =
      .memory ⟨store, some ⟨path, .content store.snapshot.write⟩⟩ := by
  obtain ⟨node, kept, writable⟩ := held
  simp only [stop, kept, Backend.server, ServerStore.through, Backend.memory, FiledStore.close,
    Option.isSome_some, if_true, FiledStore.save_eq store writable]

end Server

/-! ### Tenures -/

namespace Tenure

/-- The metrics that are accepted under a tenure, by the server that was started. -/
def accepted (tenure : Tenure) (left : FileNode) : List Metric :=
  match (tenure.start left).1 with
  | .ok server => Server.accepted server.application.gateway tenure.visits
  | .error _ => []

def acceptedAll : List Tenure → FileNode → List Metric
  | [], _ => []
  | tenure :: rest, left => tenure.accepted left ++ acceptedAll rest (tenure.leave left)

variable {path : String} {tenure : Tenure} {left : FileNode} {store : MemoryStore}

section Described

variable (outlasts : tenure.config.Outlasts path)
  (restores : (SnapshotFile.mk path left).Restores store) {gateway : Gateway}
  (described : Gateway.ofConfig tenure.config tenure.surroundings.keyContent = .ok gateway)

include outlasts restores described

theorem ready_eq :
    (Server.ready tenure.config (tenure.found left) tenure.cancelled).run.run ⟨0, []⟩ =
      (.ok (Server.holding tenure.config gateway path left store), ⟨0, []⟩) :=
  Server.ready_eq (tenure.found left) outlasts restores described tenure.cancelled

theorem start_eq (free : Server.listens tenure.config tenure.surroundings = true) :
    tenure.start left = (.ok (Server.holding tenure.config gateway path left store), ⟨0, []⟩) :=
  Server.start_eq (tenure.found left) tenure.cancelled (ready_eq outlasts restores described) free

theorem leave_of_taken (kept : store.ReadsBack)
    (taken : Server.listens tenure.config tenure.surroundings = false) :
    tenure.accepted left = [] ∧ (SnapshotFile.mk path (tenure.leave left)).Restores store := by
  have readied := ready_eq outlasts restores described
  obtain ⟨fault, refused⟩ := Server.listen_eq_error (tenure.found left) taken ⟨0, []⟩
  constructor
  · have failed : tenure.start left = (.error fault, ⟨0, []⟩) := by
      rw [start, Server.start, Server.launch]
      refine (run_bind_ok _ readied).trans ?_
      exact run_bind_error _ refused
    rw [accepted, failed]
  · have rests : Server.Rests path store []
        (Server.holding tenure.config gateway path left store).session :=
      ⟨rfl, left, rfl, restores⟩
    obtain ⟨_nobody, node, held, still⟩ := Server.serve_rests kept rests tenure.stop
    have last : tenure.leave left = node := by
      rw [leave, end?, readied]
      simp only [refused, Option.bind_some, ServerStore.file?]
      rw [held]
    rw [last]
    exact still

theorem leave_of_free (free : Server.listens tenure.config tenure.surroundings = true) :
    tenure.leave left =
      .content (store.merge (tenure.accepted left)).snapshot.write := by
  have readied := ready_eq outlasts restores described
  have bound := Server.listen_eq_ok (tenure.found left) free ⟨0, []⟩
  have taken : tenure.accepted left = Server.accepted gateway tenure.visits := by
    rw [accepted, start_eq outlasts restores described free]
    rfl
  have stopped := Server.stop_eq
    (Server.serve_merges gateway tenure.config store restores.writable tenure.stop
      tenure.visits)
  rw [leave, end?, readied, taken]
  simp only [bound, Option.bind_some, ServerStore.file?]
  rw [show _ = ServerStore.memory _ from stopped]

end Described

theorem leave_of_gateway_error (left : FileNode) {fault : GatewayFault}
    (refused : Gateway.ofConfig tenure.config tenure.surroundings.keyContent = .error fault) :
    tenure.accepted left = [] ∧ tenure.leave left = left := by
  have readied := Server.ready_eq_error (tenure.found left) refused tenure.cancelled
  constructor
  · have failed : tenure.start left = (.error (.gateway fault), ⟨0, []⟩) := by
      rw [start, Server.start, Server.launch]
      exact run_bind_error _ readied
    rw [accepted, failed]
  · rw [leave, end?, readied]
    rfl

/-- A tenure leaves a file that its store with all that was accepted is restored from. -/
theorem leave_restores (outlasts : tenure.config.Outlasts path)
    (restores : (SnapshotFile.mk path left).Restores store)
    (kept : store.ReadsBack) (keeps : (store.merge (tenure.accepted left)).ReadsBack) :
    (SnapshotFile.mk path (tenure.leave left)).Restores
      (store.merge (tenure.accepted left)) := by
  -- Without a gateway the file is not touched; without a listener it may have been written anew.
  cases described : Gateway.ofConfig tenure.config tenure.surroundings.keyContent with
  | error fault =>
    obtain ⟨nothing, same⟩ := leave_of_gateway_error left described
    rw [nothing, same]
    exact restores
  | ok gateway =>
    cases free : Server.listens tenure.config tenure.surroundings with
    | false =>
      obtain ⟨nothing, still⟩ := leave_of_taken outlasts restores described kept free
      rw [nothing]
      exact still
    | true =>
      rw [leave_of_free outlasts restores described free]
      exact ⟨MemoryStore.ofFile_write keeps path, rfl⟩

theorem allAcceptable_accepted (tenure : Tenure) (left : FileNode) :
    AllAcceptable (tenure.accepted left) := by
  unfold accepted
  cases (tenure.start left).1 with
  | error fault => exact allAcceptable_nil
  | ok server =>
    intro metric member
    obtain ⟨visit, _came, inside⟩ := List.mem_flatMap.mp member
    exact Gateway.allAcceptable_accepted _ _ _ metric inside

theorem allAcceptable_acceptedAll (tenures : List Tenure) (left : FileNode) :
    AllAcceptable (acceptedAll tenures left) := by
  induction tenures generalizing left with
  | nil => exact allAcceptable_nil
  | cons tenure rest ih =>
    intro metric member
    rcases List.mem_append.mp member with first | later
    · exact tenure.allAcceptable_accepted left metric first
    · exact ih (tenure.leave left) metric later

theorem leaveAll_restores (tenures : List Tenure)
    (outlast : ∀ tenure ∈ tenures, tenure.config.Outlasts path)
    (restores : (SnapshotFile.mk path left).Restores store) (kept : store.ReadsBack)
    (levels : ∀ metric ∈ acceptedAll tenures left, ∀ level,
      metric.sample = .gauge level → level.IsKept) :
    (SnapshotFile.mk path (leaveAll tenures left)).Restores
      (store.merge (acceptedAll tenures left)) := by
  -- The store goes along with the file: the next tenure begins with what this one has merged.
  induction tenures generalizing left store with
  | nil => exact restores
  | cons tenure rest ih =>
    have keeps : (store.merge (tenure.accepted left)).ReadsBack :=
      kept.merge fun metric member => levels metric (List.mem_append_left _ member)
    have next := leave_restores (outlast tenure List.mem_cons_self) restores kept keeps
    rw [acceptedAll, MemoryStore.merge_append]
    exact ih (fun later member => outlast later (List.mem_cons_of_mem _ member)) next keeps
      fun metric member => levels metric (List.mem_append_right _ member)

/-- However many tenures there were, and however they ended, the server that is launched next
serves what one store would hold that had merged all that was ever accepted, in its order; and so
it goes on with its own visitors. -/
theorem serves_all_accepted (path : String) (tenures : List Tenure) (last : Tenure)
    (outlast : ∀ tenure ∈ last :: tenures, tenure.config.Outlasts path)
    (reads : ∀ metric ∈ acceptedAll tenures .missing, ∀ level,
      metric.sample = .gauge level → level.ReadsBack)
    (gateway : Gateway)
    (described : Gateway.ofConfig last.config last.surroundings.keyContent = .ok gateway)
    (free : Server.listens last.config last.surroundings = true) :
    ∃ server launching host,
      last.start (leaveAll tenures .missing) = (.ok server, launching) ∧
      server.session.store = .memory host ∧
      host.store = MemoryStore.empty.merge (acceptedAll tenures .missing) ∧
      (∀ name, host.store.counters.find? name =
        if Metric.deltas name (acceptedAll tenures .missing) = [] then none
        else some (Int64.ofInt
          (Metric.sum (Metric.deltas name (acceptedAll tenures .missing))))) ∧
      ∀ stop visits, (server.serve last.config stop visits).session.Holds path
        (MemoryStore.empty.merge
          (acceptedAll tenures .missing ++ Server.accepted gateway visits)) := by
  have levels : ∀ metric ∈ acceptedAll tenures .missing, ∀ level,
      metric.sample = .gauge level → level.IsKept := by
    intro metric member level stated
    have acceptable := allAcceptable_acceptedAll tenures .missing metric member
    rw [Metric.isAcceptable, Bool.and_eq_true, stated] at acceptable
    exact ⟨acceptable.2, reads metric member level stated⟩
  have begins : (SnapshotFile.mk path .missing).Restores .empty := ⟨rfl, rfl⟩
  have restores := leaveAll_restores tenures
    (fun tenure member => outlast tenure (List.mem_cons_of_mem _ member)) begins
    MemoryStore.readsBack_empty levels
  have started := start_eq (outlast last List.mem_cons_self) restores described free
  refine ⟨_, _, _, started, rfl, rfl, ?_, ?_⟩
  · exact MemoryStore.find?_merge_empty (acceptedAll tenures .missing)
  · intro stop visits
    rw [MemoryStore.merge_append]
    exact Server.serve_merges gateway last.config _ restores.writable stop visits

def sampleSurroundings : Surroundings := ⟨none, .missing, fun _name => none, fun _address => true⟩

def sampleVisit (instant : Nat) (path : String) : Visit :=
  ⟨instant, .document, "1", ⟨"POST", ⟨path, path⟩, .empty, []⟩⟩

def sampleConfig (storeInterval : Nat) : ServerConfig :=
  { storeInterval, snapshotFile := "metrics.json" }

/-- A server that saves after each write, one with a malformed subnet, one that finds its address
in use, and one that saves once a second. -/
def sampleTenures : List Tenure :=
  [⟨sampleConfig 0, sampleSurroundings, none, [sampleVisit 5 "/update/counter/Hits/3"], 10⟩,
    ⟨{ sampleConfig 0 with trustedSubnet := "nowhere" }, sampleSurroundings, none, [], 10⟩,
    ⟨sampleConfig 1, { sampleSurroundings with canListen := fun _address => false }, none, [],
      1500⟩,
    ⟨sampleConfig 1, sampleSurroundings, none,
      [sampleVisit 5 "/update/counter/Hits/4", sampleVisit 2500 "/update/gauge/Load/1"], 3000⟩]

def sampleLast : Tenure := ⟨sampleConfig 300, sampleSurroundings, none, [], 10⟩

theorem accepted_sampleTenures : acceptedAll sampleTenures .missing =
    [.counter "Hits" 3, .counter "Hits" 4, .gauge "Load" .one] := by
  decide +kernel

theorem outlasts_sampleConfig (storeInterval : Nat) :
    (sampleConfig storeInterval).Outlasts "metrics.json" :=
  ⟨rfl, rfl, by decide, rfl⟩

theorem serves_all_sampleTenures :
    ∃ server launching host,
      sampleLast.start (leaveAll sampleTenures .missing) = (.ok server, launching) ∧
      server.session.store = .memory host ∧ host.store.counters.find? "Hits" = some 7 := by
  have outlast : ∀ tenure ∈ sampleLast :: sampleTenures,
      tenure.config.Outlasts "metrics.json" := by
    intro tenure member
    simp only [sampleTenures, List.mem_cons, List.not_mem_nil, or_false] at member
    rcases member with rfl | rfl | rfl | rfl | rfl
    · exact outlasts_sampleConfig 300
    · exact outlasts_sampleConfig 0
    · exact ⟨rfl, rfl, by decide, rfl⟩
    · exact outlasts_sampleConfig 1
    · exact outlasts_sampleConfig 1
  have reads : ∀ metric ∈ acceptedAll sampleTenures .missing, ∀ level,
      metric.sample = .gauge level → level.ReadsBack := by
    rw [accepted_sampleTenures]
    intro metric member level stated
    simp only [List.mem_cons, List.not_mem_nil, or_false] at member
    rcases member with rfl | rfl | rfl
    · cases stated
    · cases stated
    · cases stated
      unfold Binary64.ReadsBack
      decide +kernel
  obtain ⟨server, launching, host, started, held, _store, totals, _later⟩ :=
    serves_all_accepted "metrics.json" sampleTenures sampleLast outlast reads
      (.new [] none ⟨none⟩) rfl rfl
  refine ⟨server, launching, host, started, held, ?_⟩
  rw [totals, accepted_sampleTenures]
  decide

end Tenure

end Telemetry
