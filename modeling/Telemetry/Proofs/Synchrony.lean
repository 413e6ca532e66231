import Telemetry.Proofs.Atomicity
import Telemetry.Proofs.Finiteness
import Telemetry.Proofs.Restarts
/-!
A server that saves its store after each write keeps the file in step with the store. Whatever is
asked of its service, and whether or not it is granted, the file restores exactly what the store
holds after each call (`Application.file_in_step`). The settings decide whether there are such
saves, and settings that name a database decide against them, whatever the store is
(`Application.file_left_behind`). A launch leaves no choice: there a store in memory means that no
database is named (`Server.service_of_ready`).
-/

namespace Telemetry

namespace Service

/-! ### Calls -/

/-- All that can be asked of a service. -/
inductive Call where
  | updateOne (envelope : Envelope)
  | updateBatch (envelopes : List Envelope)
  | updateWords (kind name value : String)
  | getOne (query : Query)
  | names
  | index
  | ping

namespace Call

/-- The session after a call, whatever was answered. -/
def after {σ : Type} (service : Service σ) (session : Session σ) : Call → Session σ
  | .updateOne envelope => ((service.updateOne envelope).run session).2
  | .updateBatch envelopes => ((service.updateBatch envelopes).run session).2
  | .updateWords kind name value => ((service.updateWords kind name value).run session).2
  | .getOne query => ((service.getOne query).run session).2
  | .names => (service.names.run session).2
  | .index => (service.index.run session).2
  | .ping => (service.ping.run session).2

/-- The metrics that a call merges. -/
def accepted : Call → List Metric
  | .updateOne envelope => Envelope.accepted [envelope]
  | .updateBatch envelopes => Envelope.accepted envelopes
  | .updateWords kind name value =>
    match metricOfWords kind name value with
    | .ok metric => [metric]
    | .error _ => []
  | _ => []

theorem allAcceptable_accepted (call : Call) : AllAcceptable call.accepted := by
  cases call with
  | updateOne envelope => exact Envelope.allAcceptable_accepted [envelope]
  | updateBatch envelopes => exact Envelope.allAcceptable_accepted envelopes
  | updateWords kind name value =>
    rw [accepted]
    cases read : metricOfWords kind name value with
    | error error => exact allAcceptable_nil
    | ok metric =>
      intro other member
      rw [List.mem_singleton.mp member]
      exact isAcceptable_of_words read
  | getOne query => exact allAcceptable_nil
  | names => exact allAcceptable_nil
  | index => exact allAcceptable_nil
  | ping => exact allAcceptable_nil

end Call

/-- The session after calls that come one after another. -/
def afterCalls {σ : Type} (service : Service σ) (session : Session σ) (calls : List Call) :
    Session σ :=
  calls.foldl (Call.after service) session

end Service

namespace Service

variable (backoff : Backoff) {keepsFile : Bool} {session : Session ServerStore}
  {host : FiledStore}

theorem store_of_leads {α : Type} {work : Serving ServerStore α}
    (leads : Leads work.run (Session.Bears (fun file => file = host.file) host.store)
      (Session.Bears (fun file => file = host.file) host.store))
    (held : session.store = .memory host) : (work.run session).2.store = .memory host := by
  obtain ⟨file, kept, same⟩ := leads session ⟨host.file, held, rfl⟩
  rw [same] at kept
  exact kept

/-- A call is a write of the metrics that are accepted with it, or leaves the store alone. -/
theorem Call.store_after (able : host.CanKeep keepsFile) (held : session.store = .memory host)
    (call : Call) :
    (call.after (server backoff keepsFile) session).store =
      .memory (host.written keepsFile call.accepted) := by
  cases call with
  | updateOne envelope =>
    have whole : ((server backoff keepsFile).updateOne envelope).run session = _ :=
      updateOne_eq able held envelope
    rw [Call.after, whole, Call.accepted, Envelope.accepted, Envelope.metrics_singleton]
    cases envelope.metric with
    | error error => exact held
    | ok metric => rfl
  | updateBatch envelopes =>
    have whole : ((server backoff keepsFile).updateBatch envelopes).run session = _ :=
      updateBatch_eq able held envelopes
    rw [Call.after, whole, Call.accepted, Envelope.accepted]
    cases Envelope.metrics envelopes with
    | error error => exact held
    | ok metrics => rfl
  | updateWords kind name value =>
    have whole : ((server backoff keepsFile).updateWords kind name value).run session = _ :=
      updateWords_eq able held kind name value
    rw [Call.after, whole, Call.accepted]
    cases metricOfWords kind name value with
    | error error => exact held
    | ok metric => rfl
  | getOne query => exact store_of_leads (getOne_leads backoff keepsFile host.store query) held
  | names => exact store_of_leads (names_leads backoff keepsFile host.store) held
  | index => exact store_of_leads (index_leads backoff keepsFile host.store) held
  | ping => exact store_of_leads (ping_leads backoff keepsFile host.store) held

end Service

/-! ### In step -/

namespace FiledStore

variable {path : String} {host : FiledStore}

/-- A store that its file, at a path, restores. -/
def InStep (path : String) (host : FiledStore) : Prop :=
  ∃ node, host.file = some ⟨path, node⟩ ∧ (SnapshotFile.mk path node).Restores host.store

theorem InStep.canKeep (inStep : host.InStep path) (keepsFile : Bool) : host.CanKeep keepsFile := by
  intro _keeps
  obtain ⟨node, filed, restores⟩ := inStep
  exact ⟨_, filed, restores.writable⟩

theorem InStep.written (inStep : host.InStep path) {metrics : List Metric}
    (kept : (host.store.merge metrics).ReadsBack) : (host.written true metrics).InStep path := by
  obtain ⟨node, filed, restores⟩ := inStep
  obtain ⟨store, file⟩ := host
  cases filed
  cases metrics with
  | nil => exact ⟨node, rfl, restores⟩
  | cons metric rest =>
    have saved : (FiledStore.mk store (some ⟨path, node⟩)).written true (metric :: rest) =
        ⟨store.merge (metric :: rest),
          some ⟨path, .content (store.merge (metric :: rest)).snapshot.write⟩⟩ :=
      congrArg Prod.snd (save_eq (store.merge (metric :: rest)) restores.writable)
    rw [saved]
    exact ⟨_, rfl, MemoryStore.ofFile_write kept path, rfl⟩

end FiledStore

theorem SnapshotFile.Restores.restore_eq {file : SnapshotFile} {store : MemoryStore}
    (restores : file.Restores store) (prior : MemoryStore) :
    prior.restore file = (.ok (), store) := by
  rw [MemoryStore.restore, restores.read]

/-- What is merged call by call is merged as one, and the file goes along. -/
theorem Service.afterCalls_inStep (backoff : Backoff) {path : String} (calls : List Call)
    {session : Session ServerStore} {host : FiledStore} (held : session.store = .memory host)
    (inStep : host.InStep path) (kept : host.store.ReadsBack)
    (levels : ∀ metric ∈ calls.flatMap Call.accepted, ∀ level,
      metric.sample = .gauge level → level.IsKept) :
    ∃ last, (afterCalls (server backoff true) session calls).store = .memory last ∧
      last.store = host.store.merge (calls.flatMap Call.accepted) ∧ last.InStep path := by
  -- The store stays one that a document gives back, so that each save can be restored from.
  induction calls generalizing session host with
  | nil => exact ⟨host, held, rfl, inStep⟩
  | cons call rest ih =>
    have stored := Call.store_after backoff (inStep.canKeep true) held call
    have merged : (host.written true call.accepted).store = host.store.merge call.accepted :=
      host.store_written true call.accepted
    have keeps : (host.store.merge call.accepted).ReadsBack :=
      kept.merge fun metric member => levels metric (List.mem_append_left _ member)
    obtain ⟨last, ended, all, still⟩ := ih stored (inStep.written keeps) (by rwa [merged])
      fun metric member => levels metric (List.mem_append_right _ member)
    refine ⟨last, ended, ?_, still⟩
    rw [all, merged, List.flatMap_cons, MemoryStore.merge_append]

/-- The calls up to any of them leave a file that restores what the store then holds. -/
theorem Service.restores_afterCalls (backoff : Backoff) {path : String}
    {session : Session ServerStore} {store : MemoryStore} {node : FileNode}
    (held : session.store = .memory ⟨store, some ⟨path, node⟩⟩)
    (restores : (SnapshotFile.mk path node).Restores store) (calls : List Call)
    (reads : ∀ entry ∈ store.gauges.entries, entry.2.ReadsBack)
    (readsAccepted : ∀ metric ∈ calls.flatMap Call.accepted, ∀ level,
      metric.sample = .gauge level → level.ReadsBack) (count : Nat) :
    ∃ current left, (afterCalls (server backoff true) session (calls.take count)).store =
        .memory ⟨current, some ⟨path, left⟩⟩ ∧
      current = store.merge ((calls.take count).flatMap Call.accepted) ∧
      ∀ prior : MemoryStore, prior.restore ⟨path, left⟩ = (.ok (), current) := by
  have finite : store.IsFinite := MemoryStore.isFinite_of_ofFile restores.read
  have kept : store.ReadsBack := fun entry member => ⟨finite entry member, reads entry member⟩
  have levels : ∀ metric ∈ (calls.take count).flatMap Call.accepted, ∀ level,
      metric.sample = .gauge level → level.IsKept := by
    intro metric member level stated
    obtain ⟨call, taken, inside⟩ := List.mem_flatMap.mp member
    have acceptable := call.allAcceptable_accepted metric inside
    rw [Metric.isAcceptable, Bool.and_eq_true, stated] at acceptable
    have listed : metric ∈ calls.flatMap Call.accepted :=
      List.mem_flatMap.mpr ⟨call, List.mem_of_mem_take taken, inside⟩
    exact ⟨acceptable.2, readsAccepted metric listed level stated⟩
  obtain ⟨⟨current, file⟩, ended, merged, left, filed, stillRestores⟩ :=
    afterCalls_inStep backoff (calls.take count) held ⟨node, rfl, restores⟩ kept levels
  cases filed
  exact ⟨current, left, ended, merged, stillRestores.restore_eq⟩

/-! ### Servers by their settings -/

theorem ServerConfig.keepsFile_of_memory {config : ServerConfig}
    (inMemory : config.usesDatabase = false) (always : config.storeInterval = 0)
    (named : config.snapshotFile ≠ "") : config.keepsFile = true := by
  have filled : config.snapshotFile.isEmpty = false := String.isEmpty_eq_false_iff.mpr named
  rw [keepsFile, inMemory, storePeriod?, if_pos always, snapshotPath?, filled]
  rfl

namespace Application

/-- Over a store in memory that is saved after each write, the file restores what the store holds,
after each of the calls, from the first one on. -/
theorem file_in_step (config : ServerConfig) (gateway : Gateway)
    (noDatabase : config.usesDatabase = false) (always : config.storeInterval = 0)
    (named : config.snapshotFile ≠ "") (session : Session ServerStore) (store : MemoryStore)
    (node : FileNode)
    (held : session.store = .memory ⟨store, some ⟨config.snapshotFile, node⟩⟩)
    (restores : (SnapshotFile.mk config.snapshotFile node).Restores store)
    (calls : List Service.Call)
    (reads : ∀ entry ∈ store.gauges.entries, entry.2.ReadsBack)
    (readsAccepted : ∀ metric ∈ calls.flatMap Service.Call.accepted, ∀ level,
      metric.sample = .gauge level → level.ReadsBack) (count : Nat) :
    ∃ current left, ((server gateway .standard config.keepsFile).service.afterCalls session
        (calls.take count)).store = .memory ⟨current, some ⟨config.snapshotFile, left⟩⟩ ∧
      current = store.merge ((calls.take count).flatMap Service.Call.accepted) ∧
      ∀ prior : MemoryStore,
        prior.restore ⟨config.snapshotFile, left⟩ = (.ok (), current) := by
  rw [ServerConfig.keepsFile_of_memory noDatabase always named]
  exact Service.restores_afterCalls .standard held restores calls reads readsAccepted count

/-- Writes of each sort, granted and refused, with reads between them. -/
def sampleCalls : List Service.Call :=
  [.updateOne (Envelope.ofMetric (.counter "Hits" 3)), .ping, .updateBatch [],
    .updateBatch [Envelope.ofMetric (.gauge "Load" .one), Envelope.ofMetric (.counter "" 1)],
    .updateBatch [Envelope.ofMetric (.gauge "Load" .one), Envelope.ofMetric (.counter "Hits" 4)],
    .updateWords "counter" "Hits" "many", .getOne ⟨"Hits", "counter"⟩, .names,
    .updateWords "counter" "Hits" "5"]

theorem accepted_sampleCalls : sampleCalls.flatMap Service.Call.accepted =
    [.counter "Hits" 3, .gauge "Load" .one, .counter "Hits" 4, .counter "Hits" 5] := by
  decide +kernel

/-- A session over a new store, whose file is not there yet. -/
def freshSession : Session ServerStore :=
  ⟨.memory ⟨.empty, some ⟨"metrics.json", .missing⟩⟩, 0, []⟩

theorem file_in_step_sampleCalls :
    ∃ current left, ((server (.new [] none ⟨none⟩) .standard
        (Tenure.sampleConfig 0).keepsFile).service.afterCalls freshSession sampleCalls).store =
          .memory ⟨current, some ⟨"metrics.json", left⟩⟩ ∧
      current.counters.find? "Hits" = some 12 ∧
      MemoryStore.empty.restore ⟨"metrics.json", left⟩ = (.ok (), current) := by
  have reads : ∀ metric ∈ sampleCalls.flatMap Service.Call.accepted, ∀ level,
      metric.sample = .gauge level → level.ReadsBack := by
    rw [accepted_sampleCalls]
    intro metric member level stated
    simp only [List.mem_cons, List.not_mem_nil, or_false] at member
    rcases member with rfl | rfl | rfl | rfl
    · cases stated
    · cases stated
      unfold Binary64.ReadsBack
      decide +kernel
    · cases stated
    · cases stated
  obtain ⟨current, left, ended, merged, back⟩ :=
    file_in_step (Tenure.sampleConfig 0) (.new [] none ⟨none⟩) rfl rfl (by decide) freshSession
      .empty .missing rfl ⟨rfl, rfl⟩ sampleCalls nofun reads sampleCalls.length
  rw [List.take_length] at ended merged
  refine ⟨current, left, ended, ?_, back .empty⟩
  rw [merged, accepted_sampleCalls]
  decide

/-- Settings that name a database. -/
def databaseConfig : ServerConfig := { Tenure.sampleConfig 0 with database := "metrics" }

/-- Over a store in memory with such settings the write is granted, and the file is not written. -/
theorem file_left_behind :
    databaseConfig.storeInterval = 0 ∧ databaseConfig.snapshotFile = "metrics.json" ∧
      ∃ current file, ((server (.new [] none ⟨none⟩) .standard
          databaseConfig.keepsFile).service.afterCalls freshSession
            [.updateWords "counter" "Hits" "1"]).store = .memory ⟨current, some file⟩ ∧
        current.counters.find? "Hits" = some 1 ∧
        MemoryStore.empty.restore file = (.ok (), .empty) :=
  ⟨rfl, rfl, MemoryStore.empty.merge [.counter "Hits" 1], ⟨"metrics.json", .missing⟩, rfl, rfl,
    rfl⟩

end Application

namespace Server

variable {config : ServerConfig} {surroundings : Surroundings} {cancelled : Option Nat}
  {server : Server} {launching : Launching}

theorem ready_parts
    (built : (ready config surroundings cancelled).run.run ⟨0, []⟩ = (.ok server, launching)) :
    server.application.service = Service.server .standard config.keepsFile ∧
      ∃ fresh begun middle, (openStore config surroundings cancelled).run.run begun =
        (.ok fresh, middle) ∧ (restored config cancelled fresh).run.run middle =
          (.ok server.session.store, launching) := by
  unfold ready at built
  cases described : Gateway.ofConfig config surroundings.keyContent with
  | error fault =>
    rw [described] at built
    cases built
  | ok gateway =>
    rw [described] at built
    obtain ⟨_, begun, passed, built⟩ := exists_of_run_bind_ok built
    obtain ⟨fresh, middle, opened, built⟩ := exists_of_run_bind_ok built
    obtain ⟨store, after, back, built⟩ := exists_of_run_bind_ok built
    cases built
    exact ⟨rfl, fresh, begun, middle, opened, back⟩

/-- A store in memory is there only without a database. -/
theorem usesDatabase_of_ready {host : FiledStore}
    (built : (ready config surroundings cancelled).run.run ⟨0, []⟩ = (.ok server, launching))
    (inMemory : server.session.store = .memory host) : config.usesDatabase = false := by
  obtain ⟨_same, fresh, begun, middle, opened, back⟩ := ready_parts built
  cases uses : config.usesDatabase with
  | false => rfl
  | true =>
    have notRestored : isRestored config = false := by
      rw [isRestored, uses, Bool.not_true, Bool.and_false, Bool.false_and]
    rw [restored, notRestored] at back
    cases back
    rw [openStore, uses, if_pos rfl] at opened
    obtain ⟨connection, _, _, connected⟩ := exists_of_run_bind_ok opened
    rw [inMemory] at connected
    cases connected

/-- A launched server saves its store after each write if it has one in memory and a file for it,
and no instants of its own for that. -/
theorem service_of_ready {host : FiledStore}
    (built : (ready config surroundings cancelled).run.run ⟨0, []⟩ = (.ok server, launching))
    (inMemory : server.session.store = .memory host) (always : config.storeInterval = 0)
    (named : config.snapshotFile ≠ "") :
    server.application.service = Service.server .standard true := by
  have noDatabase := usesDatabase_of_ready built inMemory
  rw [(ready_parts built).1, ServerConfig.keepsFile_of_memory noDatabase always named]

end Server

end Telemetry
