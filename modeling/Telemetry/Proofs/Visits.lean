import Telemetry.Proofs.Acceptance
import Telemetry.Server.Lifetime
/-!
What a visit makes of the store. Whatever a visitor sends, in either framing, and whether or not the
store can be saved, the store afterwards is the store before with the accepted metrics merged one
after another (`Application.answer_leads`). This is put together along the handlers: each of them
takes sessions over one store to sessions over another (`Leads`), whatever it answers. Of the file
of the store they keep what its writes keep (`SnapshotFile.Lasts`): that it can be written, for one
(`Application.visited_holds`).
-/

namespace Telemetry

/-! ### Actions and properties -/

section Actions

variable {σ α β : Type} {before middle after : σ → Prop}

/-- An action takes the states with one property to states with another, whatever it answers. -/
def Leads (action : StateM σ α) (before after : σ → Prop) : Prop :=
  ∀ state, before state → after (action.run state).2

theorem leads_pure (answer : α) : Leads (pure answer) before before :=
  fun _state holds => holds

theorem Leads.bind {first : StateM σ α} {next : α → StateM σ β}
    (begins : Leads first before middle) (goes : ∀ answer, Leads (next answer) middle after) :
    Leads (first >>= next) before after :=
  fun state holds => goes (first.run state).1 (first.run state).2 (begins state holds)

theorem Leads.andThen {ε : Type} {first : ExceptT ε (StateM σ) α}
    {next : α → ExceptT ε (StateM σ) β} (begins : Leads first.run before after)
    (goes : ∀ answer, Leads (next answer).run after after) :
    Leads (first >>= next).run before after := by
  rw [ExceptT.run_bind]
  refine Leads.bind begins ?_
  rintro (error | answer)
  · exact leads_pure _
  · exact goes answer

theorem Leads.map {ε : Type} {work : ExceptT ε (StateM σ) α}
    (leads : Leads work.run before after) (form : α → β) :
    Leads (work >>= fun answer => pure (form answer)).run before after :=
  leads.andThen fun _answer => leads_pure _

/-- Work behind a check leads somewhere only if the check is passed. -/
theorem Leads.check {before after : Session σ → Prop} {result : Except MetricError α}
    {next : α → Serving σ β}
    (refuses : ∀ error, result = .error error → ∀ session, before session → after session)
    (goes : ∀ value, result = .ok value → Leads (next value).run before after) :
    Leads (Service.check result >>= next).run before after := by
  cases result with
  | error error => exact refuses error rfl
  | ok value => exact goes value rfl

theorem Leads.respond {before after : Session σ → Prop} {work : Serving σ Http.Response}
    (leads : Leads work.run before after) :
    Leads (Http.Endpoint.respond work) before after :=
  Leads.bind leads fun
    | .ok _response => leads_pure _
    | .error _error => leads_pure _

end Actions

/-! ### The service -/

/-- A session over a store in memory whose file, or the lack of one, is as wanted. -/
def Session.Bears (fits : Option SnapshotFile → Prop) (store : MemoryStore)
    (session : Session ServerStore) : Prop :=
  ∃ file, session.store = .memory ⟨store, file⟩ ∧ fits file

/-- A property of a file that it still has after a store was saved to it. -/
def SnapshotFile.Lasts (fits : Option SnapshotFile → Prop) : Prop :=
  ∀ (store : MemoryStore) (file written : SnapshotFile),
    fits (some file) → store.save file = .ok written → fits (some written)

section Handlers

variable (backoff : Backoff) (keepsFile : Bool) {fits : Option SnapshotFile → Prop}
  (lasts : SnapshotFile.Lasts fits) (store : MemoryStore)

namespace Service

theorem attempt_leads {α : Type} {operation : StoreOperation ServerStore α}
    (keeps : ∀ now host, (operation now (.memory host)).2 = .memory host) :
    Leads ((server backoff keepsFile).attempt operation).run
      (Session.Bears fits store) (Session.Bears fits store) := by
  rintro session ⟨file, held, fit⟩
  have kept : ∀ now state, state = ServerStore.memory ⟨store, file⟩ →
      (operation now state).2 = .memory ⟨store, file⟩ := by
    rintro now state rfl
    exact keeps now _
  exact ⟨file, Backoff.state_retryFrom kept _ _ _ held, fit⟩

theorem attempt_merging_leads {α : Type} {operation : StoreOperation ServerStore α}
    {answer : FiledStore → α} {metrics : List Metric}
    (merges : ∀ now host, operation now (.memory host) =
      (.ok (answer host), .memory { host with store := host.store.merge metrics })) :
    Leads ((server backoff keepsFile).attempt operation).run
      (Session.Bears fits store) (Session.Bears fits (store.merge metrics)) := by
  rintro session ⟨file, held, fit⟩
  rw [StateT.run, attempt_merging_eq held (merges _ _)]
  exact ⟨file, rfl, fit⟩

theorem update_leads (metric : Metric) :
    Leads ((server backoff keepsFile).attempt
        ((server backoff keepsFile).backend.update metric)).run
      (Session.Bears fits store) (Session.Bears fits (store.merge [metric])) :=
  attempt_merging_leads backoff keepsFile store fun _now _host => rfl

theorem names_leads : Leads (server backoff keepsFile).names.run
    (Session.Bears fits store) (Session.Bears fits store) :=
  Leads.map (attempt_leads backoff keepsFile store fun _now _host => rfl) namesOf

theorem index_leads : Leads (server backoff keepsFile).index.run
    (Session.Bears fits store) (Session.Bears fits store) :=
  Leads.map (names_leads backoff keepsFile store) _

theorem ping_leads : Leads (server backoff keepsFile).ping.run
    (Session.Bears fits store) (Session.Bears fits store) :=
  attempt_leads backoff keepsFile store fun _now _host => rfl

theorem getOne_leads (query : Query) : Leads ((server backoff keepsFile).getOne query).run
    (Session.Bears fits store) (Session.Bears fits store) := by
  unfold getOne
  cases Kind.ofText query.kind with
  | error error => exact leads_pure _
  | ok kind => exact attempt_leads backoff keepsFile store fun _now _host => rfl

include lasts

/-- However often a save is tried, and whether or not it succeeds, the store stays. -/
theorem afterWrite_leads : Leads ((server backoff keepsFile).afterWrite).run
    (Session.Bears fits store) (Session.Bears fits store) := by
  unfold afterWrite
  cases keepsFile with
  | false => exact leads_pure _
  | true =>
    rintro session ⟨file, held, fit⟩
    have kept : ∀ now state, (∃ file, state = ServerStore.memory ⟨store, file⟩ ∧ fits file) →
        ∃ file, (Backend.server.save now state).2 = .memory ⟨store, file⟩ ∧ fits file := by
      rintro now _ ⟨file, rfl, fit⟩
      cases file with
      | none => exact ⟨none, rfl, fit⟩
      | some file =>
        simp only [Backend.server, ServerStore.through, Backend.memory, FiledStore.save]
        cases saved : store.save file with
        | ok written => exact ⟨some written, rfl, lasts store file written fit saved⟩
        | error error => exact ⟨some file, rfl, fit⟩
    exact Backoff.state_retryFrom kept _ _ _ ⟨file, held, fit⟩

theorem updateBatch_leads (envelopes : List Envelope) :
    Leads ((server backoff keepsFile).updateBatch envelopes).run
      (Session.Bears fits store)
      (Session.Bears fits (store.merge (Envelope.accepted envelopes))) := by
  unfold updateBatch Envelope.accepted
  apply Leads.check
  · intro error refused session bears
    rw [refused]
    exact bears
  · intro metrics read
    rw [read]
    cases metrics with
    | nil => exact leads_pure _
    | cons metric rest =>
      refine Leads.andThen ?_ fun _done => afterWrite_leads backoff keepsFile lasts _
      exact attempt_merging_leads backoff keepsFile store fun now host =>
        updateAll_merges host (metric :: rest) now

theorem updateOne_leads (envelope : Envelope) :
    Leads ((server backoff keepsFile).updateOne envelope).run
      (Session.Bears fits store)
      (Session.Bears fits (store.merge (Envelope.accepted [envelope]))) := by
  unfold updateOne Envelope.accepted Envelope.metrics
  rw [List.mapM_cons]
  apply Leads.check
  · intro error refused session bears
    rw [refused]
    exact bears
  · intro metric read
    rw [read]
    refine Leads.andThen ?_ fun _stored => Leads.map (afterWrite_leads _ keepsFile lasts _) _
    exact update_leads backoff keepsFile store metric

theorem updateWords_leads (kind name value : String) :
    Leads ((server backoff keepsFile).updateWords kind name value).run
      (Session.Bears fits store)
      (Session.Bears fits (store.merge
        (match metricOfWords kind name value with
          | .ok metric => [metric]
          | .error _ => []))) := by
  unfold updateWords
  apply Leads.check
  · intro error refused session bears
    rw [refused]
    exact bears
  · intro metric read
    rw [read]
    refine Leads.andThen ?_ fun _stored => afterWrite_leads backoff keepsFile lasts _
    exact update_leads backoff keepsFile store metric

end Service

/-! ### Documents and calls -/

namespace Http.Endpoint

theorem withDocument_leads {α : Type} (read? : Bytes → Option α) (request : Request)
    (work : α → Serving ServerStore Response) {before : Session ServerStore → Prop}
    (after : Option α → Session ServerStore → Prop)
    (without : ∀ session, before session → after none session)
    (leads : ∀ document, Leads (work document).run before (after (some document))) :
    Leads (withDocument read? request work) before (after (document? read? request)) := by
  unfold withDocument document?
  by_cases long : longestDocument < request.body.length
  · rw [if_pos long, if_pos long]
    exact without
  · rw [if_neg long, if_neg long]
    cases read? request.body with
    | none => exact Leads.respond without
    | some document => exact Leads.respond (leads document)

include lasts

theorem answer_leads (request : Request) (route : Route) :
    Leads (answer (Service.server backoff keepsFile) request route) (Session.Bears fits store)
      (Session.Bears fits (store.merge (acceptedBy request route))) := by
  cases route with
  | index => exact Leads.respond (Leads.map (Service.index_leads _ _ _) _)
  | ping => exact Leads.respond (Leads.map (Service.ping_leads _ _ _) _)
  | update =>
    refine withDocument_leads Envelope.read? request _
      (fun document => Session.Bears fits
        (store.merge (Envelope.accepted document.toList))) (fun _session held => held) ?_
    intro envelope
    exact Leads.map (Service.updateOne_leads _ _ lasts _ envelope) _
  | updates =>
    refine withDocument_leads Envelope.readMany? request _
      (fun document => Session.Bears fits
        (store.merge (Envelope.accepted (document.getD [])))) (fun _session held => held) ?_
    intro envelopes
    exact Leads.map (Service.updateBatch_leads _ _ lasts _ envelopes) _
  | updateWords kind name value =>
    exact Leads.respond
      (Leads.map (Service.updateWords_leads _ _ lasts _ kind name value) _)
  | query =>
    refine withDocument_leads Query.read? request _
      (fun _document => Session.Bears fits store) (fun _session held => held) ?_
    intro query
    exact Leads.map (Service.getOne_leads _ _ _ query) _
  | queryWords kind name =>
    exact Leads.respond (Leads.map (Service.getOne_leads _ _ _ ⟨name, kind⟩) _)

theorem handle_leads (route : Route) (request : Request) :
    Leads (handle (Service.server backoff keepsFile) route request) (Session.Bears fits store)
      (Session.Bears fits (store.merge (accepted route request))) := by
  unfold handle accepted
  by_cases allowed : route.allows request.method = true
  · rw [if_pos allowed, if_pos allowed]
    cases route.decode with
    | ok decoded => exact answer_leads backoff keepsFile lasts store request decoded
    | error name => exact leads_pure _
  · rw [if_neg allowed, if_neg allowed]
    exact leads_pure _

end Http.Endpoint

namespace Rpc

theorem serve_leads {α : Type} {before after : Session ServerStore → Prop}
    {work : Serving ServerStore α} (leads : Leads work.run before after) :
    Leads (serve work).run before after :=
  Leads.bind leads fun _result => leads_pure _

include lasts

theorem perform_leads (call : Call) :
    Leads (perform (Service.server backoff keepsFile) call).run (Session.Bears fits store)
      (Session.Bears fits (store.merge call.accepted)) := by
  cases call with
  | updateMetric envelope =>
    cases envelope with
    | none => exact leads_pure _
    | some envelope =>
      have served := serve_leads (Service.updateOne_leads backoff keepsFile lasts store envelope)
      exact served.map Reply.metric
  | updateMetrics envelopes =>
    have served := serve_leads (Service.updateBatch_leads backoff keepsFile lasts store envelopes)
    exact served.map fun _done => Reply.nothing
  | getMetric query =>
    exact Leads.map (serve_leads (Service.getOne_leads backoff keepsFile store query))
      fun metric => Reply.metric (Envelope.ofMetric metric)
  | getMetrics =>
    exact Leads.map (serve_leads (Service.names_leads backoff keepsFile store)) Reply.names
  | ping =>
    exact Leads.map (serve_leads (Service.ping_leads backoff keepsFile store))
      fun _done => Reply.nothing

theorem handle_leads (request : Http.Request) :
    Leads (handle (Service.server backoff keepsFile) request) (Session.Bears fits store)
      (Session.Bears fits (store.merge (accepted request))) := by
  unfold handle accepted
  cases Method.ofPath? request.target.path with
  | none => exact leads_pure _
  | some method =>
    simp only
    cases unsupportedEncoding? request.headers with
    | some status => exact leads_pure _
    | none =>
      simp only
      cases Frame.call method request.body with
      | error status => exact leads_pure _
      | ok call =>
        refine Leads.bind (perform_leads backoff keepsFile lasts store call) ?_
        intro result
        cases result with
        | ok reply => exact leads_pure _
        | error status => exact leads_pure _

end Rpc

end Handlers

/-! ### Visits -/

theorem Http.Journal.around_leads (trace : String) {inner : Handler ServerStore}
    {request : Request} {fits : Option SnapshotFile → Prop} {store next : MemoryStore}
    (leads : Leads (inner request) (Session.Bears fits store) (Session.Bears fits next)) :
    Leads (around trace inner request) (Session.Bears fits store) (Session.Bears fits next) := by
  unfold around
  have logged : ∀ (store : MemoryStore) (events : List Log.Event),
      Leads (modify (·.log events) : StateM (Session ServerStore) Unit)
        (Session.Bears fits store) (Session.Bears fits store) :=
    fun _store _events _session held => held
  refine Leads.bind (logged store _) fun _done => Leads.bind leads fun response => ?_
  exact Leads.bind (logged next _) fun _done => leads_pure _

namespace Gateway

/-- Behind the gateway only a request that gets there leads anywhere. -/
theorem around_leads (gateway : Gateway) (framing : Framing) (trace : String)
    {inner : Http.Handler ServerStore} (request : Http.Request)
    {fits : Option SnapshotFile → Prop} {store : MemoryStore} {read : Http.Request → List Metric}
    (leads : ∀ passed, Leads (inner passed) (Session.Bears fits store)
      (Session.Bears fits (store.merge (read passed)))) :
    Leads (gateway.around framing trace inner request) (Session.Bears fits store)
      (Session.Bears fits (store.merge (gateway.brought request read))) := by
  unfold around admitting brought received?
  cases gateway.trusted.check request.headers with
  | error error => exact leads_pure _
  | ok admitted =>
    unfold opening
    by_cases long : longestRequest < request.body.length
    · simp only [if_pos long]
      exact leads_pure _
    · simp only [if_neg long]
      cases gateway.inbound.unwrap ⟨request.headers, request.body⟩ with
      | mk fault parcel =>
        cases fault with
        | some error => exact leads_pure _
        | none =>
          refine Leads.bind (Http.Journal.around_leads trace (leads _)) fun response => ?_
          cases framing with
          | call => exact leads_pure _
          | document => exact leads_pure _

theorem brought_nothing (gateway : Gateway) (request : Http.Request) :
    gateway.brought request (fun _passed => []) = [] := by
  unfold brought
  cases gateway.received? request with
  | none => rfl
  | some passed => rfl

end Gateway

namespace Application

def server (gateway : Gateway) (backoff : Backoff) (keepsFile : Bool) : Application ServerStore :=
  ⟨gateway, Service.server backoff keepsFile⟩

@[simp] theorem gateway_server (gateway : Gateway) (backoff : Backoff) (keepsFile : Bool) :
    (server gateway backoff keepsFile).gateway = gateway := rfl

section Answers

variable (gateway : Gateway) (backoff : Backoff) (keepsFile : Bool)
  {fits : Option SnapshotFile → Prop} (lasts : SnapshotFile.Lasts fits) (store : MemoryStore)

include lasts

theorem document_leads (trace : String) (request : Http.Request) :
    Leads ((server gateway backoff keepsFile).document trace request) (Session.Bears fits store)
      (Session.Bears fits (store.merge (gateway.accepted .document request))) := by
  unfold document Gateway.accepted
  cases Http.Route.ofPath? request.target.path with
  | none =>
    have missing : ∀ passed : Http.Request, Leads (Http.Endpoint.missing passed)
        (Session.Bears fits store) (Session.Bears fits (store.merge [])) :=
      fun _passed => leads_pure _
    have around := Gateway.around_leads gateway .document trace request missing
    rwa [Gateway.brought_nothing] at around
  | some route =>
    refine Leads.bind ?_ fun response => leads_pure _
    exact Gateway.around_leads gateway .document trace request
      (Http.Endpoint.handle_leads backoff keepsFile lasts store route)

/-- An answer leaves the store with what was accepted merged into it. -/
theorem answer_leads (framing : Framing) (trace : String) (request : Http.Request) :
    Leads ((server gateway backoff keepsFile).answer framing trace request)
      (Session.Bears fits store)
      (Session.Bears fits (store.merge (gateway.accepted framing request))) := by
  cases framing with
  | document => exact document_leads gateway backoff keepsFile lasts store trace request
  | call =>
    exact Gateway.around_leads gateway .call trace request
      (Rpc.handle_leads backoff keepsFile lasts store)

end Answers

end Application

/-! ### Files that can be written -/

/-- A file at a path that can be written. -/
def SnapshotFile.WritableAt (path : String) (file : Option SnapshotFile) : Prop :=
  ∃ node, file = some ⟨path, node⟩ ∧ (SnapshotFile.mk path node).isWritable = true

theorem SnapshotFile.lasts_writableAt (path : String) : Lasts (WritableAt path) := by
  rintro store file written ⟨node, found, writable⟩ saved
  obtain rfl := Option.some.inj found
  rw [MemoryStore.save_eq store writable] at saved
  cases saved
  exact ⟨.content store.snapshot.write, rfl, rfl⟩

/-- A session over a store whose file at a path can be written. -/
def Session.Holds (path : String) (store : MemoryStore) (session : Session ServerStore) : Prop :=
  ∃ node, session.store = .memory ⟨store, some ⟨path, node⟩⟩ ∧
    (SnapshotFile.mk path node).isWritable = true

theorem Session.holds_iff (path : String) (store : MemoryStore) (session : Session ServerStore) :
    session.Holds path store ↔ session.Bears (SnapshotFile.WritableAt path) store := by
  constructor
  · rintro ⟨node, held, writable⟩
    exact ⟨_, held, node, rfl, writable⟩
  · rintro ⟨_, held, node, rfl, writable⟩
    exact ⟨node, held, writable⟩

/-- A visit merges what it brings. -/
theorem Application.visited_holds (gateway : Gateway) (backoff : Backoff) (keepsFile : Bool)
    (path : String) (store : MemoryStore) (visit : Visit) {session : Session ServerStore}
    (holds : session.Holds path store) :
    ((server gateway backoff keepsFile).visited visit session).Holds path
      (store.merge (gateway.accepted visit.framing visit.request)) := by
  rw [Session.holds_iff] at holds ⊢
  exact answer_leads gateway backoff keepsFile (SnapshotFile.lasts_writableAt path) store
    visit.framing visit.trace visit.request _ holds

end Telemetry
