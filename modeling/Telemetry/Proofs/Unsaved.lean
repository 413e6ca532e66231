import Telemetry.Proofs.Delivery
import Telemetry.Proofs.Framings
import Telemetry.Proofs.Synchrony
/-!
Writes that are in the store and in no file. A service that saves its store after each write answers
with an error when the save fails however often it is tried, and what was written stays in the store
(`Service.EndsUnsaved`). To an agent such an error is one that may pass, in either framing
(`ServiceError.SeemsToPass`), so that it sends its batch again, which is then merged again: as often
as it is sent (`Service.unsaved_calls_stay`, `Pairing.unsaved_batches_stay`).
-/

namespace Telemetry

/-! ### Errors that seem to pass -/

/-- An error that is answered as a failure of the server, and that an agent takes for one that may
pass. -/
structure ServiceError.SeemsToPass (error : ServiceError) : Prop where
  status : error.status = 500
  code : error.code = .internal
  document : ∃ detail,
    Transport.judgeDocument (.ofServiceError error) = .error (.transient detail)
  call : ∃ detail, Transport.judgeCall (Rpc.ending error.rpcStatus) = .error (.transient detail)

namespace Transport

theorem judgeDocument_of_failure {response : Http.Response} (failure : response.status = 500) :
    ∃ detail, judgeDocument response = .error (.transient detail) := by
  unfold judgeDocument
  rw [failure]
  exact ⟨_, rfl⟩

theorem judgeCall_of_failure {response : Http.Response}
    (failure : (Rpc.endedWith? response).map Rpc.Status.code = some .internal) :
    ∃ detail, judgeCall response = .error (.transient detail) := by
  obtain ⟨status, ended, code⟩ := Option.map_eq_some_iff.mp failure
  simp only [judgeCall, ended, Option.getD_some, code]
  exact ⟨_, rfl⟩

end Transport

theorem ServiceError.seemsToPass_storage (error : StorageError) :
    (ServiceError.storage error).SeemsToPass where
  status := rfl
  code := rfl
  document := Transport.judgeDocument_of_failure rfl
  call := Transport.judgeCall_of_failure
    (congrArg (Option.map Rpc.Status.code) (Rpc.states_ending _).endedWith?)

/-! ### Saves that fail -/

namespace Service

variable {blocked : Option SnapshotFile → Prop} {service : Service ServerStore}

/-- A service that saves a store in memory after each write, and whose saves fail while the file is
in a state that no save leads out of. -/
structure Unsaving (blocked : Option SnapshotFile → Prop) (service : Service ServerStore) :
    Prop where
  keepsFile : service.keepsFile = true
  update : service.backend.update = Backend.server.update
  updateAll : service.backend.updateAll = Backend.server.updateAll
  fails : ∀ now store file, blocked file → ∃ path fault left,
    service.backend.save now (.memory ⟨store, file⟩) =
        (.error (.fileUnavailable path fault), .memory ⟨store, left⟩) ∧
      blocked left

/-- Work that ends with an error of the file, and with some store in memory. -/
structure EndsUnsaved {α : Type} (blocked : Option SnapshotFile → Prop) (store : MemoryStore)
    (ended : Except ServiceError α × Session ServerStore) : Prop where
  fails : ∃ path fault, ended.1 = .error (.storage (.fileUnavailable path fault))
  keeps : ∃ left, ended.2.store = .memory ⟨store, left⟩ ∧ blocked left

section Work

variable {α β : Type} {store : MemoryStore} {session : Session ServerStore} {host : FiledStore}

theorem EndsUnsaved.bind {work : Serving ServerStore α}
    (ends : EndsUnsaved blocked store (work.run session)) (rest : α → Serving ServerStore β) :
    EndsUnsaved blocked store ((work >>= rest).run session) := by
  cases worked : work.run session with
  | mk result after =>
    rw [worked] at ends
    obtain ⟨⟨path, fault, failed⟩, keeps⟩ := ends
    cases failed
    rw [run_bind_error rest worked]
    exact ⟨⟨path, fault, rfl⟩, keeps⟩

/-- However often it is tried, the save fails. -/
theorem Unsaving.afterWrite (unsaving : Unsaving blocked service) {file : Option SnapshotFile}
    (held : session.store = .memory ⟨store, file⟩) (unwritable : blocked file) :
    EndsUnsaved blocked store (service.afterWrite.run session) := by
  have keeps : ∀ now state,
      (∃ left, state = ServerStore.memory ⟨store, left⟩ ∧ blocked left) →
      (∃ path fault, (service.backend.save now state).1 = .error (.fileUnavailable path fault)) ∧
        ∃ left, (service.backend.save now state).2 = .memory ⟨store, left⟩ ∧ blocked left := by
    rintro now _ ⟨file, rfl, unwritable⟩
    obtain ⟨path, fault, left, saved, still⟩ := unsaving.fails now store file unwritable
    rw [saved]
    exact ⟨⟨path, fault, rfl⟩, left, rfl, still⟩
  obtain ⟨⟨path, fault, failed⟩, kept⟩ := Backoff.retryFrom_keeps
    (fun result => ∃ path fault, result = .error (StorageError.fileUnavailable path fault))
    (fun state => ∃ left, state = ServerStore.memory ⟨store, left⟩ ∧ blocked left) keeps 1
    service.backoff.delays session.now ⟨file, held, unwritable⟩
  rw [Service.afterWrite, if_pos unsaving.keepsFile]
  exact ⟨⟨path, fault, congrArg (Except.mapError ServiceError.ofStorage) failed⟩, kept⟩

/-- What is merged before a save that fails stays merged. -/
theorem Unsaving.attempt (unsaving : Unsaving blocked service)
    (held : session.store = .memory host) (unwritable : blocked host.file)
    {operation : StoreOperation ServerStore α} {answer : α} {metrics : List Metric}
    (merges : operation session.now (.memory host) =
      (.ok answer, .memory { host with store := host.store.merge metrics }))
    {rest : α → Serving ServerStore β} (saves : ∀ after, EndsUnsaved blocked
        (host.store.merge metrics) (service.afterWrite.run after) →
      EndsUnsaved blocked (host.store.merge metrics) ((rest answer).run after)) :
    EndsUnsaved blocked (host.store.merge metrics)
      ((service.attempt operation >>= rest).run session) := by
  rw [← held] at merges
  rw [run_bind_ok rest (attempt_eq_ok service merges)]
  exact saves _ (unsaving.afterWrite rfl unwritable)

/-- What merges metrics whatever was merged before, and does not get the file out of its state,
merges them as often as it is repeated. -/
theorem store_repeat {again : Session ServerStore → Session ServerStore} {metrics : List Metric}
    (merges : ∀ (session : Session ServerStore) host, session.store = .memory host →
      blocked host.file → ∃ left, (again session).store =
        .memory ⟨host.store.merge metrics, left⟩ ∧ blocked left)
    (held : session.store = .memory host) (unwritable : blocked host.file) (count : Nat) :
    ∃ left, (Nat.repeat again count session).store =
      .memory ⟨host.store.merge (List.replicate count metrics).flatten, left⟩ ∧ blocked left := by
  induction count with
  | zero => exact ⟨host.file, held, unwritable⟩
  | succ count ih =>
    obtain ⟨left, stored, still⟩ := ih
    obtain ⟨last, ended, unwritten⟩ := merges _ _ stored still
    refine ⟨last, ended.trans ?_, unwritten⟩
    rw [List.replicate_succ', List.flatten_append, List.flatten_singleton,
      MemoryStore.merge_append]

end Work

/-! ### Calls -/

/-- How a call ends, apart from what it answers. -/
def Call.ends {σ : Type} (service : Service σ) (session : Session σ) :
    Call → Except ServiceError Unit
  | .updateOne envelope => ((service.updateOne envelope).run session).1.map fun _stored => ()
  | .updateBatch envelopes => ((service.updateBatch envelopes).run session).1
  | .updateWords kind name value => ((service.updateWords kind name value).run session).1
  | .getOne query => ((service.getOne query).run session).1.map fun _metric => ()
  | .names => (service.names.run session).1.map fun _names => ()
  | .index => (service.index.run session).1.map fun _page => ()
  | .ping => (service.ping.run session).1

section Calls

variable {session : Session ServerStore} {host : FiledStore}

theorem Unsaving.updateBatch (unsaving : Unsaving blocked service)
    (held : session.store = .memory host) (unwritable : blocked host.file)
    {envelopes : List Envelope} (carries : Envelope.accepted envelopes ≠ []) :
    EndsUnsaved blocked (host.store.merge (Envelope.accepted envelopes))
      ((service.updateBatch envelopes).run session) := by
  rw [Envelope.accepted] at carries ⊢
  unfold Service.updateBatch
  cases read : Envelope.metrics envelopes with
  | error error =>
    rw [read] at carries
    exact absurd rfl carries
  | ok metrics =>
    rw [read] at carries
    rw [run_bind_ok _ (check_ok_run metrics), if_neg (by rwa [List.isEmpty_iff]),
      unsaving.updateAll]
    exact unsaving.attempt held unwritable (updateAll_merges host metrics session.now)
      fun _after saved => saved

theorem Unsaving.updateOne (unsaving : Unsaving blocked service)
    (held : session.store = .memory host) (unwritable : blocked host.file)
    {envelope : Envelope} {metric : Metric} (read : envelope.metric = .ok metric) :
    EndsUnsaved blocked (host.store.merge [metric]) ((service.updateOne envelope).run session) := by
  unfold Service.updateOne
  rw [read, run_bind_ok _ (check_ok_run metric), unsaving.update]
  exact unsaving.attempt held unwritable (update_merges host metric session.now)
    fun _after saved => saved.bind _

theorem Unsaving.updateWords (unsaving : Unsaving blocked service)
    (held : session.store = .memory host) (unwritable : blocked host.file)
    {kind name value : String} {metric : Metric}
    (read : metricOfWords kind name value = .ok metric) :
    EndsUnsaved blocked (host.store.merge [metric])
      ((service.updateWords kind name value).run session) := by
  unfold Service.updateWords
  rw [read, run_bind_ok _ (check_ok_run metric), unsaving.update]
  exact unsaving.attempt held unwritable (update_merges host metric session.now)
    fun _after saved => saved

/-- A call that brings metrics ends with an error of the file, and they are merged. -/
theorem Unsaving.call (unsaving : Unsaving blocked service)
    (held : session.store = .memory host) (unwritable : blocked host.file) {call : Call}
    (carries : call.accepted ≠ []) :
    EndsUnsaved blocked (host.store.merge call.accepted)
      (call.ends service session, call.after service session) := by
  cases call with
  | updateBatch envelopes => exact unsaving.updateBatch held unwritable carries
  | updateOne envelope =>
    rw [Call.accepted, Envelope.accepted, Envelope.metrics_singleton] at carries ⊢
    cases read : envelope.metric with
    | error error =>
      rw [read] at carries
      exact absurd rfl carries
    | ok metric =>
      obtain ⟨⟨path, fault, failed⟩, kept⟩ := unsaving.updateOne held unwritable read
      exact ⟨⟨path, fault, congrArg (Except.map fun _stored => ()) failed⟩, kept⟩
  | updateWords kind name value =>
    rw [Call.accepted] at carries ⊢
    cases read : metricOfWords kind name value with
    | error error =>
      rw [read] at carries
      exact absurd rfl carries
    | ok metric => exact unsaving.updateWords held unwritable read
  | getOne query => exact absurd rfl carries
  | names => exact absurd rfl carries
  | index => exact absurd rfl carries
  | ping => exact absurd rfl carries

theorem afterCalls_replicate {σ : Type} (service : Service σ) (session : Session σ) (call : Call)
    (count : Nat) : service.afterCalls session (List.replicate count call) =
      Nat.repeat (fun session => call.after service session) count session := by
  induction count with
  | zero => rfl
  | succ count ih =>
    rw [List.replicate_succ', afterCalls, List.foldl_append]
    exact congrArg (fun session => call.after service session) ih

end Calls

/-- A file that cannot be written. -/
def IsBlocked (file : Option SnapshotFile) : Prop :=
  ∃ found, file = some found ∧ found.isWritable = false

theorem unsaving_server (backoff : Backoff) : Unsaving IsBlocked (server backoff true) where
  keepsFile := rfl
  update := rfl
  updateAll := rfl
  fails := by
    rintro now store _ ⟨⟨path, node⟩, rfl, unwritable⟩
    cases node with
    | missing => cases unwritable
    | content octets => cases unwritable
    | directory => exact ⟨path, .isDirectory, _, rfl, _, rfl, rfl⟩
    | nowhere => exact ⟨path, .noSuchPlace, _, rfl, _, rfl, rfl⟩

/-- However often a call that cannot be saved is made again, it ends with an error of the file,
which seems to pass, and has been merged once more. -/
theorem unsaved_calls_stay (unsaving : Unsaving blocked service) (session : Session ServerStore)
    (host : FiledStore) (held : session.store = .memory host) (unwritable : blocked host.file)
    (call : Call) (carries : call.accepted ≠ []) (count : Nat) :
    ∃ path fault left,
      call.ends service (service.afterCalls session (List.replicate count call)) =
        .error (.storage (.fileUnavailable path fault)) ∧
      (ServiceError.storage (.fileUnavailable path fault)).SeemsToPass ∧
      (call.after service (service.afterCalls session (List.replicate count call))).store =
        .memory ⟨host.store.merge (List.replicate (count + 1) call.accepted).flatten, left⟩ := by
  obtain ⟨before, stored, still⟩ := store_repeat
    (fun _session _host held unwritable => (unsaving.call held unwritable carries).keeps)
    held unwritable count
  rw [← afterCalls_replicate] at stored
  obtain ⟨⟨path, fault, failed⟩, left, ended, _still⟩ := unsaving.call stored still carries
  refine ⟨path, fault, left, failed, ServiceError.seemsToPass_storage _, ended.trans ?_⟩
  rw [List.replicate_succ', List.flatten_append, List.flatten_singleton, MemoryStore.merge_append]

/-- A batch of which the counter shows how often it was merged. -/
def unsavedCall : Call :=
  .updateBatch [Envelope.ofMetric (.counter "Hits" 3), Envelope.ofMetric (.gauge "Load" .one)]

theorem unsaved_calls_stay_blockedSession : ∃ path fault left,
    unsavedCall.ends (server ⟨[10, 20]⟩ true) (afterCalls (server ⟨[10, 20]⟩ true) blockedSession
        [unsavedCall]) = .error (.storage (.fileUnavailable path fault)) ∧
      (unsavedCall.after (server ⟨[10, 20]⟩ true) (afterCalls (server ⟨[10, 20]⟩ true)
        blockedSession [unsavedCall])).store = .memory ⟨MemoryStore.empty.merge
          [.counter "Hits" 3, .gauge "Load" .one, .counter "Hits" 3, .gauge "Load" .one], left⟩ := by
  have accepted : unsavedCall.accepted = [.counter "Hits" 3, .gauge "Load" .one] := by
    decide +kernel
  obtain ⟨path, fault, left, failed, _seems, stored⟩ := unsaved_calls_stay
    (unsaving_server ⟨[10, 20]⟩) blockedSession ⟨.empty, some ⟨"metrics.json", .directory⟩⟩ rfl
    ⟨_, rfl, rfl⟩ unsavedCall (by rw [accepted]; exact List.cons_ne_nil _ _) 1
  rw [accepted] at stored
  exact ⟨path, fault, left, failed, stored⟩

/-- A call that is answered with an error is in the store, and twice when it is made again. -/
theorem unsaved_call_counted :
    unsavedCall.ends (server ⟨[10, 20]⟩ true) blockedSession =
        .error (.storage (.fileUnavailable "metrics.json" .isDirectory)) ∧
      countersOf blockedSession.store = [] ∧
      countersOf (afterCalls (server ⟨[10, 20]⟩ true) blockedSession [unsavedCall]).store =
        [("Hits", 3)] ∧
      countersOf (afterCalls (server ⟨[10, 20]⟩ true) blockedSession
        [unsavedCall, unsavedCall]).store = [("Hits", 6)] :=
  ⟨rfl, rfl, rfl, rfl⟩

end Service

/-! ### Batches -/

namespace Pairing

variable (pairing : Pairing) (backoff : Backoff) (trace : String) {framing : Framing}
  {session : Session ServerStore} {host : FiledStore} {batch : Batch}

/-- A batch that is sent to a server whose file cannot be written is merged, and to the agent its
delivery has failed in a way that may pass. -/
theorem send_unsaved (held : session.store = .memory host)
    (unwritable : Service.IsBlocked host.file) (carries : batch ≠ [])
    (acceptable : batch.all Metric.isAcceptable = true) (fits : pairing.Fits framing batch)
    (reads : framing = .document → ∀ metric ∈ batch, ∀ level,
      metric.sample = .gauge level → level.isFinite = true → level.ReadsBack) :
    ∃ detail last left,
      ((pairing.transport framing).send (pairing.link backoff true framing trace)
        batch).run session = (.error (.transient detail), last) ∧
      last.store = .memory ⟨host.store.merge batch, left⟩ ∧ Service.IsBlocked left := by
  have unsaved : ∀ {way : Metric → Envelope}, Envelope.Conveys way →
      ∀ {begun : Session ServerStore},
      begun.store = .memory host → Service.EndsUnsaved Service.IsBlocked (host.store.merge batch)
        (((Service.server backoff true).updateBatch (batch.map way)).run begun) := by
    intro way conveys begun same
    have accepted := Envelope.accepted_of_ok (conveys.metrics_ok acceptable)
    have ends := (Service.unsaving_server backoff).updateBatch same unwritable
      (accepted.symm ▸ carries)
    rwa [accepted] at ends
  cases framing with
  | document =>
    have decoded := readMany?_writeMany (reads rfl)
    obtain ⟨begun, result, updated, response, last, same, done, sent, status, stored⟩ :=
      pairing.send_document_of_read backoff true trace fits decoded session
    obtain ⟨⟨path, fault, failed⟩, left, kept, still⟩ :=
      done ▸ unsaved Envelope.conveys_readBack (same.trans held)
    cases failed
    obtain ⟨detail, judged⟩ := Transport.judgeDocument_of_failure status
    exact ⟨detail, last, left, judged ▸ sent, stored.trans kept, still⟩
  | call =>
    obtain ⟨begun, result, updated, last, same, done, sent, stored⟩ :=
      pairing.send_call_of_fits backoff true trace fits session
    obtain ⟨⟨path, fault, failed⟩, left, kept, still⟩ :=
      done ▸ unsaved Envelope.conveys_ofMetric (same.trans held)
    cases failed
    obtain ⟨detail, judged⟩ := Transport.judgeCall_of_failure
      (Rpc.code_of_ending trace (ServiceError.storage (.fileUnavailable path fault)).rpcStatus)
    exact ⟨detail, last, left, judged ▸ sent, stored.trans kept, still⟩

/-- However often an agent sends a batch to a server whose file cannot be written, its delivery
fails in a way that may pass, and the batch has been merged once more. -/
theorem unsaved_batches_stay (held : session.store = .memory host)
    (unwritable : Service.IsBlocked host.file) (carries : batch ≠ [])
    (acceptable : batch.all Metric.isAcceptable = true) (fits : pairing.Fits framing batch)
    (reads : framing = .document → ∀ metric ∈ batch, ∀ level,
      metric.sample = .gauge level → level.isFinite = true → level.ReadsBack) (count : Nat) :
    ∃ detail last left,
      ((pairing.transport framing).send (pairing.link backoff true framing trace) batch).run
        (Nat.repeat (fun session => (((pairing.transport framing).send
          (pairing.link backoff true framing trace) batch).run session).2) count session) =
        (.error (.transient detail), last) ∧
      last.store =
        .memory ⟨host.store.merge (List.replicate (count + 1) batch).flatten, left⟩ := by
  have sends : ∀ {session : Session ServerStore} {host : FiledStore},
      session.store = .memory host → Service.IsBlocked host.file → ∃ detail last left,
        ((pairing.transport framing).send (pairing.link backoff true framing trace)
          batch).run session = (.error (.transient detail), last) ∧
        last.store = .memory ⟨host.store.merge batch, left⟩ ∧ Service.IsBlocked left :=
    fun held unwritable =>
      pairing.send_unsaved backoff trace held unwritable carries acceptable fits reads
  obtain ⟨before, stored, still⟩ := Service.store_repeat
    (fun _session _host held unwritable => by
      obtain ⟨detail, last, left, sent, stored, still⟩ := sends held unwritable
      exact ⟨left, (congrArg (fun ended => ended.2.store) sent).trans stored, still⟩)
    held unwritable count
  obtain ⟨detail, last, left, sent, ended, _still⟩ := sends stored still
  refine ⟨detail, last, left, sent, ended.trans ?_⟩
  rw [List.replicate_succ', List.flatten_append, List.flatten_singleton, MemoryStore.merge_append]

end Pairing

end Telemetry
