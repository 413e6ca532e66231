import Telemetry.Proofs.Aggregation
import Telemetry.Proofs.Responses
import Telemetry.Proofs.Rounding
import Telemetry.Proofs.Snapshots
import Telemetry.Proofs.Visits
/-!
No visitor can spoil a snapshot. A store whose levels are finite keeps finite levels whatever is
sent to it, since everything that is accepted is finite, and so is everything that is restored
(`MemoryStore.isFinite_of_restore`). The snapshot of such a store has no `null` in it, and what a
server answers about a metric has the one field of its kind (`Application.visits_keep_finite`).
-/

namespace Telemetry

/-! ### Documents without holes -/

/-- A `null` somewhere in a document. -/
inductive Json.HoldsNull : Json → Prop
  | here : HoldsNull .null
  | item {items : List Json} {item : Json} (member : item ∈ items) (inside : HoldsNull item) :
      HoldsNull (.array items)
  | value {members : List (Option String × Json)} {key : Option String} {value : Json}
      (member : (key, value) ∈ members) (inside : HoldsNull value) : HoldsNull (.object members)

theorem Json.holdsNull_ofMembers {members : List (String × Json)}
    (holds : HoldsNull (.ofMembers members)) :
    ∃ member ∈ members, HoldsNull member.2 := by
  cases holds with
  | value member inside =>
    obtain ⟨source, found, same⟩ := List.mem_map.mp member
    cases same
    exact ⟨source, found, inside⟩

theorem Json.not_holdsNull_ofText (text : String) : ¬ HoldsNull (.ofText text) := nofun

theorem Json.not_holdsNull_number (numeral : Numeral) : ¬ HoldsNull (.number numeral) := nofun

namespace Snapshot

theorem not_holdsNull_sectionToJson {α : Type} {write : α → Json}
    {entries : NameMap (SnapshotEntry α)}
    (numbers : ∀ entry ∈ entries.entries, ¬ (write entry.2.value).HoldsNull) :
    ¬ (sectionToJson write entries).HoldsNull := by
  intro holds
  obtain ⟨_, member, inside⟩ := Json.holdsNull_ofMembers holds
  obtain ⟨entry, found, rfl⟩ := List.mem_map.mp member
  obtain ⟨field, fieldMember, fieldInside⟩ := Json.holdsNull_ofMembers inside
  simp only [List.mem_cons, List.not_mem_nil, or_false] at fieldMember
  rcases fieldMember with rfl | rfl | rfl
  · exact Json.not_holdsNull_ofText _ fieldInside
  · exact Json.not_holdsNull_ofText _ fieldInside
  · exact numbers entry found fieldInside

theorem not_holdsNull_toJson {snapshot : Snapshot}
    (finite : ∀ entry ∈ snapshot.gauges.entries, entry.2.value.isFinite = true) :
    ¬ snapshot.toJson.HoldsNull := by
  intro holds
  obtain ⟨field, member, inside⟩ := Json.holdsNull_ofMembers holds
  simp only [List.mem_cons, List.not_mem_nil, or_false] at member
  rcases member with rfl | rfl
  · refine not_holdsNull_sectionToJson ?_ inside
    intro entry found
    rw [Json.ofBinary64, if_pos (finite entry found)]
    exact Json.not_holdsNull_number _
  · refine not_holdsNull_sectionToJson ?_ inside
    intro entry _found
    exact Json.not_holdsNull_number _

end Snapshot

/-! ### Finite stores -/

/-- The value of an entry is one that was read. -/
theorem SnapshotEntry.exists_read {α : Type} {read : Json → Option α} {document : Json}
    {entry : SnapshotEntry α} (found : ofJson? read document = some entry) :
    ∃ value, read value = some entry.value := by
  unfold ofJson? at found
  obtain ⟨values, _record, found⟩ := Option.bind_eq_some_iff.mp found
  split at found
  · rename_i name kind value
    obtain ⟨text, _name, found⟩ := Option.bind_eq_some_iff.mp found
    obtain ⟨kind, _kind, found⟩ := Option.bind_eq_some_iff.mp found
    obtain ⟨number, read_, found⟩ := Option.bind_eq_some_iff.mp found
    cases found
    cases value with
    | none => cases read_
    | some value => exact ⟨value, read_⟩
  · cases found

theorem Snapshot.exists_read {α : Type} {read : Json → Option α} {document : Option Json}
    {entries : NameMap (SnapshotEntry α)} (found : section? read document = some entries)
    {entry : String × SnapshotEntry α} (member : entry ∈ entries.entries) :
    ∃ value, read value = some entry.2.value := by
  unfold section? at found
  split at found
  · cases found
    cases member
  · rename_i members
    obtain ⟨list, traversed, rfl⟩ := Option.map_eq_some_iff.mp found
    obtain ⟨source, _inside, made⟩ :=
      exists_of_mem_mapM traversed (NameMap.mem_of_mem_ofList member)
    obtain ⟨name, _name, made⟩ := Option.bind_eq_some_iff.mp made
    obtain ⟨kept, read_, made⟩ := Option.bind_eq_some_iff.mp made
    cases made
    exact SnapshotEntry.exists_read read_
  · cases found

namespace MemoryStore

theorem isFinite_empty : empty.IsFinite := nofun

theorem IsFinite.merge {store : MemoryStore} (finite : store.IsFinite) {metrics : List Metric}
    (acceptable : AllAcceptable metrics) : (store.merge metrics).IsFinite := by
  induction metrics generalizing store with
  | nil => exact finite
  | cons metric rest ih =>
    have first : (store.update metric).2.IsFinite := by
      have taken := acceptable metric List.mem_cons_self
      rw [Metric.isAcceptable, Bool.and_eq_true] at taken
      obtain ⟨name, sample⟩ := metric
      cases sample with
      | counter delta => exact finite
      | gauge level =>
        intro entry member
        rcases NameMap.mem_insertInto member with rfl | inside
        · exact taken.2
        · exact finite entry inside
    exact ih first fun later member => acceptable later (List.mem_cons_of_mem _ member)

theorem isFinite_of_ofSnapshot {snapshot : Snapshot} {store : MemoryStore}
    (finite : ∀ entry ∈ snapshot.gauges.entries, entry.2.value.isFinite = true)
    (described : ofSnapshot snapshot = .ok store) : store.IsFinite := by
  unfold ofSnapshot at described
  cases gauges : sectionValues .gauge snapshot.gauges with
  | error error =>
    rw [gauges] at described
    cases described
  | ok levels =>
    rw [gauges] at described
    cases counters : sectionValues .counter snapshot.counters with
    | error error =>
      rw [counters] at described
      cases described
    | ok totals =>
      rw [counters] at described
      cases described
      unfold sectionValues at gauges
      split at gauges
      · cases gauges
      · cases gauges
        intro entry member
        obtain ⟨source, inside, rfl⟩ := List.mem_map.mp member
        exact finite source inside

/-- What is restored is finite, since no numeral is read as anything else. -/
theorem isFinite_of_ofFile {file : SnapshotFile} {store : MemoryStore}
    (described : ofFile file = .ok store) : store.IsFinite := by
  unfold ofFile at described
  cases found : file.read with
  | error error =>
    rw [found] at described
    cases described
  | ok content =>
    rw [found] at described
    cases content with
    | none =>
      cases described
      exact isFinite_empty
    | some text =>
      change ofText text = .ok store at described
      unfold ofText at described
      split at described
      · cases described
        exact isFinite_empty
      · split at described
        · rename_i snapshot read
          refine isFinite_of_ofSnapshot ?_ described
          obtain ⟨document, _parsed, read⟩ := Option.bind_eq_some_iff.mp read
          unfold Snapshot.ofJson? at read
          obtain ⟨sections, _record, read⟩ := Option.bind_eq_some_iff.mp read
          split at read
          · obtain ⟨gauges, gaugesRead, read⟩ := Option.bind_eq_some_iff.mp read
            obtain ⟨counters, _countersRead, read⟩ := Option.bind_eq_some_iff.mp read
            cases read
            intro entry member
            obtain ⟨value, number⟩ := Snapshot.exists_read gaugesRead member
            exact Json.isFinite_of_binary64? number
          · cases read
        · cases described

theorem isFinite_of_restore {prior store : MemoryStore} {file : SnapshotFile}
    (restored : prior.restore file = (.ok (), store)) : store.IsFinite := by
  unfold restore at restored
  split at restored
  · rename_i described
    cases restored
    exact isFinite_of_ofFile described
  · cases restored

/-- A store with finite levels is saved as a document without `null`, which is restored if the
numerals in it can be read. -/
theorem IsFinite.save {store : MemoryStore} (finite : store.IsFinite) {file : SnapshotFile}
    (writable : file.isWritable = true) :
    ∃ saved octets document, store.save file = .ok saved ∧ saved.octets? = some octets ∧
      Json.read? octets = some document ∧ ¬ document.HoldsNull ∧
      ((∀ entry ∈ store.gauges.entries, entry.2.isFinite = true → entry.2.IsReadable) →
        ∀ other : MemoryStore, (other.restore saved).1 = .ok ()) := by
  refine ⟨_, store.snapshot.write, store.snapshot.toJson, store.save_eq writable, rfl,
    Json.read?_pretty _ (Snapshot.writable_toJson store.snapshot), ?_, ?_⟩
  · apply Snapshot.not_holdsNull_toJson
    intro entry member
    obtain ⟨source, inside, rfl⟩ := List.mem_map.mp member
    exact finite source inside
  · intro readable other
    have described := ofFile_write_of_isReadable
      (fun entry member => readable entry member (finite entry member)) file.path
    rw [restore, described]

end MemoryStore

/-! ### Answers about metrics -/

/-- The field of a document that a metric of its kind has. -/
def Metric.field (metric : Metric) : String × Json :=
  match metric.sample with
  | .gauge level => ("value", .number (.ofBinary64 level))
  | .counter total => ("delta", .number (.ofInt total.toInt))

/-- The field of a message that a metric of its kind has. -/
def Metric.wireField (metric : Metric) : Wire.Field :=
  match metric.sample with
  | .gauge level => ⟨3, .fixed64 (Wire.binary64Octets level)⟩
  | .counter total => ⟨4, .varint (Wire.int64ToNat total)⟩

/-- An answer about a metric that has its name, its kind and the one field of its kind. -/
def Http.Response.Answers (framing : Framing) (metric : Metric) (response : Http.Response) :
    Prop :=
  match framing with
  | .document => ∃ octets, response.plainBody? = some octets ∧ Json.read? octets = some (.ofMembers
      [("id", .ofText metric.name), ("type", .ofText metric.kind.word), metric.field])
  | .call => response.body = Rpc.Frame.write (Wire.writeFields [⟨1, .octets (Wire.writeFields
      (Wire.textField 1 metric.name ++ Wire.textField 2 metric.kind.word ++
        [metric.wireField]))⟩])

namespace Http.Request

/-- A request whose path leads to an answer about one metric. -/
def asksForMetric (framing : Framing) (request : Request) : Bool :=
  match framing with
  | .document =>
    match Route.ofPath? request.target.path with
    | some .update | some .query => true
    | _ => false
  | .call =>
    match Rpc.Method.ofPath? request.target.path with
    | some .updateMetric | some .getMetric => true
    | _ => false

theorem exists_route_of_asks {request : Request} (asks : request.asksForMetric .document = true) :
    ∃ route, Route.ofPath? request.target.path = some route ∧
      (route = .update ∨ route = .query) := by
  simp only [asksForMetric] at asks
  split at asks
  · rename_i routed
    exact ⟨_, routed, .inl rfl⟩
  · rename_i routed
    exact ⟨_, routed, .inr rfl⟩
  · cases asks

end Http.Request

theorem Envelope.read?_write_ofMetric {metric : Metric} (finite : metric.sample.isFinite = true) :
    Json.read? (ofMetric metric).write = some (.ofMembers
      [("id", .ofText metric.name), ("type", .ofText metric.kind.word), metric.field]) := by
  rw [write, Json.read?_compact _ (writable_toJson _)]
  obtain ⟨name, sample⟩ := metric
  cases sample with
  | counter total => rfl
  | gauge level =>
    have number : Json.ofBinary64 level = .number (.ofBinary64 level) := if_pos finite
    have whole : (ofMetric ⟨name, .gauge level⟩).toJson = .ofMembers
        [("id", .ofText name), ("type", .ofText Kind.gauge.word),
          ("value", Json.ofBinary64 level)] := rfl
    rw [whole, number]
    rfl

theorem Envelope.toWire_ofMetric (metric : Metric) :
    (ofMetric metric).toWire = Wire.writeFields (Wire.textField 1 metric.name ++
      Wire.textField 2 metric.kind.word ++ [metric.wireField]) := by
  obtain ⟨name, sample⟩ := metric
  cases sample with
  | gauge level => exact congrArg Wire.writeFields (List.append_nil _)
  | counter total => exact congrArg (fun front => Wire.writeFields (front ++ _)) (List.append_nil _)

theorem Rpc.Reply.toWire_metric (metric : Metric) :
    (Reply.metric (.ofMetric metric)).toWire = Wire.writeFields [⟨1, .octets (Wire.writeFields
      (Wire.textField 1 metric.name ++ Wire.textField 2 metric.kind.word ++
        [metric.wireField]))⟩] := by
  rw [← Envelope.toWire_ofMetric]
  rfl

/-! ### What is answered is stored -/

/-- A session over a store that holds a metric as it is. -/
def Session.Stores (metric : Metric) (session : Session ServerStore) : Prop :=
  ∃ kept, session.store = .memory kept ∧
    kept.store.find? metric.kind metric.name = some metric.sample

theorem MemoryStore.find?_answered (store : MemoryStore) (metric : Metric) :
    (store.update metric).2.find? (store.update metric).1.kind (store.update metric).1.name =
      some (store.update metric).1.sample := by
  have same : (store.update metric).1.kind = metric.kind ∧
      (store.update metric).1.name = metric.name := by
    obtain ⟨name, sample⟩ := metric
    cases sample <;> exact ⟨rfl, rfl⟩
  rw [same.1, same.2, find?_update_self]

theorem MemoryStore.find?_of_get {store : MemoryStore} {kind : Kind} {name : String}
    {metric : Metric} (found : store.get kind name = .ok metric) :
    store.find? metric.kind metric.name = some metric.sample := by
  obtain ⟨rfl, rfl, held⟩ := store.get_eq_ok_iff.mp found
  exact held

theorem MemoryStore.IsFinite.isFinite_of_find? {store : MemoryStore} (finite : store.IsFinite)
    {kind : Kind} {name : String} {sample : Sample} (held : store.find? kind name = some sample) :
    sample.isFinite = true := by
  unfold find? at held
  cases kind with
  | counter =>
    obtain ⟨total, _inside, rfl⟩ := Option.map_eq_some_iff.mp held
    rfl
  | gauge =>
    obtain ⟨level, inside, rfl⟩ := Option.map_eq_some_iff.mp held
    obtain ⟨entry, found, rfl⟩ := Option.map_eq_some_iff.mp inside
    exact finite entry (List.mem_of_find?_eq_some found)

/-- A session over a store in memory whose levels are finite. -/
def Session.IsFinite (session : Session ServerStore) : Prop :=
  ∃ host, session.store = .memory host ∧ host.store.IsFinite

theorem Session.IsFinite.isFinite_of_stores {session : Session ServerStore}
    (finite : session.IsFinite) {metric : Metric} (stores : session.Stores metric) :
    metric.sample.isFinite = true := by
  obtain ⟨host, held, levels⟩ := finite
  obtain ⟨kept, stored, found⟩ := stores
  cases held.symm.trans stored
  exact levels.isFinite_of_find? found

/-- Whatever is asked of a file, a save leaves one behind. -/
theorem SnapshotFile.lasts_any : Lasts fun _file => True :=
  fun _store _file _written _fit _saved => trivial

theorem Service.session_of_check {σ α : Type} {result : Except MetricError α} {value : α}
    {session after : Session σ}
    (checked : (check result : Serving σ α).run session = (.ok value, after)) :
    session = after := by
  cases result with
  | error error => cases checked
  | ok found =>
    cases checked
    rfl

/-- An operation that answers the same at all times is repeated in vain. -/
theorem Service.attempt_of_constant {α : Type} {service : Service ServerStore}
    {operation : StoreOperation ServerStore α} {session after : Session ServerStore}
    {result : Except StorageError α} {answer : α}
    (constant : ∀ now, operation now session.store = (result, session.store))
    (done : (service.attempt operation).run session = (.ok answer, after)) :
    result = .ok answer ∧ after.store = session.store := by
  have constantly : ∀ now state, state = session.store →
      (operation now state).1 = result ∧ (operation now state).2 = session.store := by
    rintro now _ rfl
    rw [constant]
    exact ⟨rfl, rfl⟩
  obtain ⟨answered, stored⟩ : (service.backoff.retry none operation session.now
        session.store).result = result ∧
      (service.backoff.retry none operation session.now session.store).state = session.store :=
    Backoff.retryFrom_keeps (· = result) (· = session.store) constantly _ _ _ rfl
  obtain ⟨told, left⟩ := Prod.mk.inj done
  subst left
  refine ⟨?_, stored⟩
  rw [answered] at told
  cases result with
  | error error => cases told
  | ok value =>
    cases told
    rfl

theorem Http.Endpoint.exists_of_respond {σ α : Type} {work : Serving σ α} {form : α → Response}
    {session after : Session σ} {response : Response}
    (handled : (respond (work >>= fun answer => pure (form answer))).run session =
      (response, after)) (success : response.status < 400) :
    ∃ answer, work.run session = (.ok answer, after) ∧ response = form answer := by
  cases worked : work.run session with
  | mk result next =>
    cases result with
    | error error =>
      rw [respond_error (run_bind_error _ worked)] at handled
      cases handled
      exact absurd error.refused (Nat.not_le.mpr success)
    | ok answer =>
      have responded : (respond (work >>= fun answer => pure (form answer))).run session =
        (form answer, next) := respond_ok (run_bind_ok _ worked)
      cases responded.symm.trans handled
      exact ⟨answer, rfl, rfl⟩

theorem Rpc.exists_of_serve {σ α : Type} {work : Serving σ α} {form : α → Reply}
    {session after : Session σ} {reply : Reply}
    (done : (serve work >>= fun answer => pure (form answer)).run session = (.ok reply, after)) :
    ∃ answer, work.run session = (.ok answer, after) ∧ reply = form answer := by
  obtain ⟨answer, _, served, done⟩ := exists_of_run_bind_ok done
  cases done
  rw [serve_run] at served
  cases worked : work.run session with
  | mk result next =>
    rw [worked] at served
    cases result with
    | error error => cases served
    | ok value =>
      cases served
      exact ⟨_, rfl, rfl⟩

section Yields

variable {backoff : Backoff} {keepsFile : Bool} {session after : Session ServerStore}
  {host : FiledStore} (held : session.store = .memory host)

include held

namespace Service

/-- Whether or not a save succeeds, the store is as it was. -/
theorem store_of_afterWrite {result : Except ServiceError Unit}
    (saved : ((server backoff keepsFile).afterWrite).run session = (result, after)) :
    ∃ file, after.store = .memory ⟨host.store, file⟩ := by
  obtain ⟨file, kept, _fit⟩ := afterWrite_leads backoff keepsFile SnapshotFile.lasts_any
    host.store session ⟨host.file, held, trivial⟩
  rw [show StateT.run ((server backoff keepsFile).afterWrite).run session = _ from saved] at kept
  exact ⟨file, kept⟩

/-- A write that is answered is stored as it is answered, whatever became of other saves. -/
theorem updateOne_yields {envelope answer : Envelope}
    (done : ((server backoff keepsFile).updateOne envelope).run session = (.ok answer, after)) :
    ∃ metric, answer = Envelope.ofMetric metric ∧ after.Stores metric := by
  unfold updateOne at done
  obtain ⟨metric, _, checked, done⟩ := exists_of_run_bind_ok done
  obtain ⟨stored, middle, updated, done⟩ := exists_of_run_bind_ok done
  obtain ⟨_, _, saved, done⟩ := exists_of_run_bind_ok done
  cases done
  obtain rfl : session = _ := session_of_check checked
  have merges := update_merges host metric session.now
  cases (attempt_merging_eq held merges).symm.trans updated
  obtain ⟨file, kept⟩ := store_of_afterWrite rfl saved
  exact ⟨_, rfl, _, kept, host.store.find?_answered metric⟩

/-- A read that is answered is stored as it is answered. -/
theorem getOne_yields {query : Query} {answer : Metric}
    (done : ((server backoff keepsFile).getOne query).run session = (.ok answer, after)) :
    after.Stores answer := by
  unfold getOne at done
  cases known : Kind.ofText query.kind with
  | error error =>
    rw [known] at done
    cases done
  | ok kind =>
    rw [known] at done
    have reads : ∀ now, Backend.server.get kind query.name now session.store =
        (host.store.get kind query.name, session.store) := by
      intro now
      rw [held]
      rfl
    obtain ⟨found, kept⟩ := attempt_of_constant reads done
    exact ⟨host, kept.trans held, MemoryStore.find?_of_get found⟩

end Service

/-- A document about a metric is answered only with a metric that is stored. -/
theorem Http.Endpoint.handle_yields {request : Request} {response : Response} {route : Route}
    (asked : route = .update ∨ route = .query)
    (handled : (handle (Service.server backoff keepsFile) route request).run session =
      (response, after)) (success : response.status < 400) :
    request.method = "POST" ∧ ∃ metric,
      response = envelopeResponse (.ofMetric metric) ∧ after.Stores metric := by
  have fails : ∀ other, (handle (Service.server backoff keepsFile) route request).run session =
      (other, session) → 400 ≤ other.status → False := by
    intro other refused bad
    rw [handled] at refused
    cases refused
    exact absurd bad (Nat.not_le.mpr success)
  rcases asked with rfl | rfl
  · rcases document?_cases Envelope.read? request with ⟨posted, envelope, read⟩ | unread
    · rw [handle_read _ .update rfl rfl (fun _request => rfl) posted read] at handled
      obtain ⟨answer, done, rfl⟩ := exists_of_respond handled success
      obtain ⟨metric, rfl, stored⟩ := Service.updateOne_yields held done
      exact ⟨posted, metric, rfl, stored⟩
    · obtain ⟨other, refused, bad⟩ :=
        handle_unread _ .update rfl rfl (fun _request => rfl) unread session
      exact (fails other refused bad).elim
  · rcases document?_cases Query.read? request with ⟨posted, query, read⟩ | unread
    · rw [handle_read _ .query rfl rfl (fun _request => rfl) posted read] at handled
      obtain ⟨metric, done, rfl⟩ := exists_of_respond handled success
      exact ⟨posted, metric, rfl, Service.getOne_yields held done⟩
    · obtain ⟨other, refused, bad⟩ :=
        handle_unread _ .query rfl rfl (fun _request => rfl) unread session
      exact (fails other refused bad).elim

/-- A call about a metric is answered only with a metric that is stored. -/
theorem Rpc.handle_yields {request : Http.Request} {response : Http.Response}
    (asked : request.asksForMetric .call = true)
    (handled : (handle (Service.server backoff keepsFile) request).run session =
      (response, after)) :
    (∃ status, States response.headers status ∧ status.code ≠ .ok) ∨ ∃ metric,
      response = replying (Frame.write (Reply.metric (.ofMetric metric)).toWire) ∧
        after.Stores metric := by
  cases read : called? request with
  | none =>
    obtain ⟨other, status, refused, states, bad⟩ := handle_none read
    cases handled.symm.trans refused
    exact .inl ⟨status, states, bad⟩
  | some call =>
    rw [handle_some read] at handled
    cases performed : (perform (Service.server backoff keepsFile) call).run session with
    | mk result next =>
      rw [performed] at handled
      cases result with
      | error status =>
        cases handled
        exact .inl ⟨status, states_ending status, code_ne_ok_of_perform performed⟩
      | ok reply =>
        cases handled
        cases call with
        | updateMetric envelope =>
          cases envelope with
          | none => cases performed
          | some envelope =>
            obtain ⟨answer, done, rfl⟩ := exists_of_serve performed
            obtain ⟨metric, rfl, stored⟩ := Service.updateOne_yields held done
            exact .inr ⟨metric, rfl, stored⟩
        | getMetric query =>
          obtain ⟨metric, done, rfl⟩ := exists_of_serve performed
          exact .inr ⟨metric, rfl, Service.getOne_yields held done⟩
        | updateMetrics envelopes =>
          rw [Http.Request.asksForMetric, method_of_called? read] at asked
          cases asked
        | getMetrics =>
          rw [Http.Request.asksForMetric, method_of_called? read] at asked
          cases asked
        | ping =>
          rw [Http.Request.asksForMetric, method_of_called? read] at asked
          cases asked

end Yields

/-! ### Runs of visits -/

/-- The session after visits that come one after another. -/
def Application.afterVisits {σ : Type} (application : Application σ) (visits : List Visit)
    (session : Session σ) : Session σ :=
  visits.foldl (fun current visit => application.visited visit current) session

/-- What a visitor is answered. -/
def Application.answerTo {σ : Type} (application : Application σ) (visit : Visit)
    (session : Session σ) : Http.Response :=
  let current := { session with now := max session.now visit.instant }
  ((application.answer visit.framing visit.trace visit.request).run current).1

/-- Whoever asks for one metric is told one that is stored, with the one field of its kind, if it
is no failure. -/
def Application.TellsMetrics (application : Application ServerStore)
    (session : Session ServerStore) : Prop :=
  ∀ visit : Visit, visit.request.asksForMetric visit.framing = true →
    ¬ (application.answerTo visit session).Fails visit.framing →
    ∃ metric, (application.visited visit session).Stores metric ∧
      metric.sample.isFinite = true ∧
      (application.answerTo visit session).Answers visit.framing metric

namespace Application

variable (gateway : Gateway) (backoff : Backoff) (keepsFile : Bool)

theorem answer_keeps_finite (framing : Framing) (trace : String) (request : Http.Request) :
    Leads ((server gateway backoff keepsFile).answer framing trace request) Session.IsFinite
      Session.IsFinite := by
  rintro session ⟨⟨store, file⟩, held, finite⟩
  obtain ⟨next, stored, _fit⟩ := answer_leads gateway backoff keepsFile SnapshotFile.lasts_any
    store framing trace request session ⟨file, held, trivial⟩
  exact ⟨_, stored, finite.merge (gateway.allAcceptable_accepted framing request)⟩

theorem afterVisits_keeps_finite (visits : List Visit) {session : Session ServerStore}
    (finite : session.IsFinite) :
    ((server gateway backoff keepsFile).afterVisits visits session).IsFinite := by
  induction visits generalizing session with
  | nil => exact finite
  | cons visit rest ih =>
    have current : ({ session with now := max session.now visit.instant } :
        Session ServerStore).IsFinite := finite
    exact ih (answer_keeps_finite gateway backoff keepsFile visit.framing visit.trace
      visit.request _ current)

end Application

namespace Application

variable (secret : Bytes) (key : Option Crypto.Rsa.PrivateKey) (trusted : TrustedSubnet)
  (backoff : Backoff) (keepsFile : Bool)

/-- An answer about a metric that is no failure has the one field of its kind. -/
theorem answer_about_metric {session after : Session ServerStore} (finite : session.IsFinite)
    {framing : Framing} {trace : String} {request : Http.Request} {response : Http.Response}
    (asked : request.asksForMetric framing = true)
    (answered : ((server (.new secret key trusted) backoff keepsFile).answer framing trace
      request).run session = (response, after))
    (succeeds : ¬ response.Fails framing) :
    ∃ metric, after.Stores metric ∧ metric.sample.isFinite = true ∧
      response.Answers framing metric := by
  have stays : after.IsFinite := by
    have kept := answer_keeps_finite (.new secret key trusted) backoff keepsFile framing trace
      request session finite
    rwa [answered] at kept
  rcases answer_cases (server (.new secret key trusted) backoff keepsFile) framing trace request
    session with ⟨_turnedAway, other, refused, fails⟩ |
      ⟨passed, inside, next, events, received, handled, whole⟩
  · cases refused.symm.trans answered
    exact absurd fails succeeds
  · rw [gateway_server] at received whole
    cases whole.symm.trans answered
    obtain ⟨host, held, _levels⟩ := finite
    have logged : (session.log [Http.Journal.requestEvent passed]).store = .memory host := held
    have target := (Gateway.received?_same received).1
    cases framing with
    | call =>
      have askedPassed : passed.asksForMetric .call = true := by
        rwa [Http.Request.asksForMetric, target]
      rcases Rpc.handle_yields logged askedPassed handled with
        ⟨status, states, bad⟩ | ⟨metric, rfl, stored⟩
      · exact absurd (.inr ⟨rfl, status, Rpc.endedWith?_noted trace states _, bad⟩) succeeds
      · refine ⟨metric, stored, stays.isFinite_of_stores stored, ?_⟩
        exact (Http.Journal.body_noted _ trace _).trans
          (congrArg Rpc.Frame.write (Rpc.Reply.toWire_metric metric))
    | document =>
      rw [fails_sent_document_iff, Nat.not_le] at succeeds
      obtain ⟨route, routed, aboutOne⟩ := Http.Request.exists_route_of_asks asked
      rw [← target] at routed
      simp only [inner, routed] at handled
      obtain ⟨posted, metric, rfl, stored⟩ :=
        Http.Endpoint.handle_yields logged aboutOne handled succeeds
      refine ⟨metric, stored, stays.isFinite_of_stores stored, _,
        plainBody?_sent secret key trusted trace request passed rfl posted, ?_⟩
      exact Envelope.read?_write_ofMetric (stays.isFinite_of_stores stored)

theorem tells_metrics {session : Session ServerStore} (finite : session.IsFinite) :
    (server (.new secret key trusted) backoff keepsFile).TellsMetrics session := by
  intro visit asked succeeds
  have current : ({ session with now := max session.now visit.instant } :
      Session ServerStore).IsFinite := finite
  exact answer_about_metric secret key trusted backoff keepsFile current asked rfl succeeds

/-- However many visitors there were, and whatever they sent, all levels are finite. So the store
can be saved at any time as a document without `null`, which is restored if its numerals can be
read; and every answer about a metric has the one field of its kind. -/
theorem visits_keep_finite (session : Session ServerStore) (host : FiledStore)
    (held : session.store = .memory host)
    (begins : host.store = .empty ∨
      ∃ (prior : MemoryStore) (file : SnapshotFile), prior.restore file = (.ok (), host.store))
    (visits : List Visit) :
    ∃ last : FiledStore,
      ((server (.new secret key trusted) backoff keepsFile).afterVisits visits session).store =
        .memory last ∧
      (∀ name level, last.store.gauges.find? name = some level → level.isFinite = true) ∧
      (∀ place : SnapshotFile, place.isWritable = true → ∃ saved octets document,
        last.store.save place = .ok saved ∧ saved.octets? = some octets ∧
        Json.read? octets = some document ∧ ¬ document.HoldsNull ∧
        ((∀ entry ∈ last.store.gauges.entries, entry.2.isFinite = true → entry.2.IsReadable) →
          ∀ other : MemoryStore, (other.restore saved).1 = .ok ())) ∧
      (server (.new secret key trusted) backoff keepsFile).TellsMetrics
        ((server (.new secret key trusted) backoff keepsFile).afterVisits visits session) := by
  have finite : session.IsFinite := by
    refine ⟨host, held, ?_⟩
    rcases begins with fresh | ⟨prior, file, restored⟩
    · rw [fresh]
      exact MemoryStore.isFinite_empty
    · exact MemoryStore.isFinite_of_restore restored
  have lasting := afterVisits_keeps_finite (.new secret key trusted) backoff keepsFile visits finite
  obtain ⟨last, stored, levels⟩ := lasting
  refine ⟨last, stored, ?_, fun place writable => levels.save writable, ?_⟩
  · intro name level found
    have sample : last.store.find? .gauge name = some (.gauge level) := by
      rw [MemoryStore.find?, found]
      rfl
    exact levels.isFinite_of_find? sample
  · exact tells_metrics secret key trusted backoff keepsFile ⟨last, stored, levels⟩

def openServer : Application ServerStore := server (.new [] none ⟨none⟩) .never false

def wordsVisit (path : String) : Visit := ⟨0, .document, "1", ⟨"POST", ⟨path, path⟩, .empty, []⟩⟩

/-- A level in the words of a path, one that is too large for a number, and one that is no number
in a call. -/
def oddVisits : List Visit :=
  [wordsVisit "/update/gauge/Load/0.1", wordsVisit "/update/gauge/Load/1e999",
    ⟨1, .call, "2", ⟨"POST", ⟨"/", Rpc.Method.updateMetric.path⟩, .empty,
      Rpc.Frame.write (Envelope.optionalToWire (some ⟨"Load", "gauge", some .nan, none⟩))⟩⟩]

def oddSession : Session ServerStore :=
  openServer.afterVisits oddVisits ⟨.memory ⟨.empty, none⟩, 0, []⟩

def loadVisit : Visit :=
  ⟨2, .document, "3", ⟨"POST", ⟨"/value/", "/value/"⟩, .empty, Query.write ⟨"Load", "gauge"⟩⟩⟩

/-- The gauges in memory. -/
def gaugesOf : ServerStore → List (String × Binary64)
  | .memory host => host.store.gauges.entries
  | .table _ => []

theorem gauges_oddSession {host : FiledStore} (held : oddSession.store = .memory host) :
    host.store.gauges.entries = [("Load", ⟨0x3FB999999999999A⟩)] := by
  have evaluated : gaugesOf oddSession.store = [("Load", ⟨0x3FB999999999999A⟩)] := by
    decide +kernel
  rwa [held] at evaluated

/-- Of the three levels the first is stored, saved, restored and answered. -/
theorem visits_keep_finite_oddVisits :
    ∃ last saved metric, oddSession.store = .memory last ∧
      last.store.save ⟨"metrics.json", .missing⟩ = .ok saved ∧
      (MemoryStore.empty.restore saved).1 = .ok () ∧
      (openServer.answerTo loadVisit oddSession).Answers .document metric := by
  obtain ⟨last, stored, _finite, saves, answers⟩ :=
    visits_keep_finite [] none ⟨none⟩ .never false ⟨.memory ⟨.empty, none⟩, 0, []⟩
      ⟨.empty, none⟩ rfl (.inl rfl) oddVisits
  obtain ⟨saved, _octets, _document, written, _stored, _parsed, _whole, restores⟩ :=
    saves ⟨"metrics.json", .missing⟩ rfl
  have readable : ∀ entry ∈ last.store.gauges.entries,
      entry.2.isFinite = true → entry.2.IsReadable := by
    rw [gauges_oddSession stored]
    intro entry member _finite
    obtain rfl := List.mem_singleton.mp member
    unfold Binary64.IsReadable
    decide +kernel
  have succeeds : ¬ (openServer.answerTo loadVisit oddSession).Fails .document := by
    rw [Http.Response.fails_document_iff]
    decide +kernel
  obtain ⟨metric, _held, _finite, shown⟩ :=
    answers loadVisit (by decide +kernel) succeeds
  exact ⟨last, saved, metric, stored, written, restores readable .empty, shown⟩

end Application

end Telemetry
