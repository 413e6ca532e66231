import Telemetry.Proofs.Addresses
import Telemetry.Proofs.Finiteness
import Telemetry.Proofs.Messages
/-!
One service in two framings. A document and a message that ask for the same operation have the same
effect and are answered alike, with the same metric, the same names or the same error
(`Http.Response.Corresponds`). A metric in the words of a path is written as the envelope is that
carries what the words are read as (`WordsAgree`). All of it is `Service.framings_agree`.
-/

namespace Telemetry

/-- What a service can be asked for in both framings. -/
inductive Operation where
  | update (envelope : Envelope)
  | updates (envelopes : List Envelope)
  | query (wanted : Query)
  | index

namespace Operation

def route : Operation → Http.Route
  | .update _ => .update
  | .updates _ => .updates
  | .query _ => .query
  | .index => .index

def call : Operation → Rpc.Call
  | .update envelope => .updateMetric (some envelope)
  | .updates envelopes => .updateMetrics envelopes
  | .query wanted => .getMetric wanted
  | .index => .getMetrics

/-- The document that asks for an operation; the index is asked for without one. -/
def document : Operation → Bytes
  | .update envelope => envelope.write
  | .updates envelopes => Envelope.writeMany envelopes
  | .query wanted => wanted.write
  | .index => []

/-- The message that asks for an operation. -/
def message : Operation → Bytes
  | .update envelope => Envelope.optionalToWire (some envelope)
  | .updates envelopes => Envelope.manyToWire envelopes
  | .query wanted => wanted.toWire
  | .index => []

def envelopes : Operation → List Envelope
  | .update envelope => [envelope]
  | .updates envelopes => envelopes
  | .query _ => []
  | .index => []

/-- All values are numbers that a document can carry. -/
def IsPlain (operation : Operation) : Prop :=
  ∀ envelope ∈ operation.envelopes, ∀ value ∈ envelope.value,
    value.isFinite = true ∧ value.ReadsBack

/-- A request reaches the route of an operation by a method that it takes. -/
structure RoutedBy (operation : Operation) (request : Http.Request) : Prop where
  path : Http.Route.ofPath? request.target.path = some operation.route
  method : operation.route.allows request.method = true

/-- What is read from the body of a request is an operation. -/
def StatedBy (request : Http.Request) : Operation → Prop
  | .update envelope => Http.Endpoint.document? Envelope.read? request = some envelope
  | .updates envelopes => Http.Endpoint.document? Envelope.readMany? request = some envelopes
  | .query wanted => Http.Endpoint.document? Query.read? request = some wanted
  | .index => True

end Operation

/-! ### Requests that were written -/

namespace Operation

/-- A document is read as the operation that it was written for. -/
theorem statedBy_document {operation : Operation} (plain : operation.IsPlain)
    {request : Http.Request} (body : request.body = operation.document)
    (short : request.body.length ≤ Http.Endpoint.longestDocument) :
    operation.StatedBy request := by
  have read : ∀ {α : Type} (read? : Bytes → Option α),
      Http.Endpoint.document? read? request = read? operation.document := by
    intro α read?
    rw [Http.Endpoint.document?, if_neg (Nat.not_lt.mpr short), body]
  cases operation with
  | index => trivial
  | query wanted =>
    change Http.Endpoint.document? Query.read? request = some wanted
    rw [read]
    exact wanted.read?_write
  | update envelope =>
    have values := plain envelope List.mem_cons_self
    change Http.Endpoint.document? Envelope.read? request = some envelope
    rw [read]
    change Envelope.read? envelope.write = some envelope
    rw [Envelope.read?_write _ fun value stated _finite => (values value stated).2,
      Envelope.readBack_eq fun value stated => (values value stated).1]
  | updates envelopes =>
    change Http.Endpoint.document? Envelope.readMany? request = some envelopes
    rw [read]
    change Envelope.readMany? (Envelope.writeMany envelopes) = some envelopes
    rw [Envelope.readMany?_writeMany envelopes fun envelope member value stated _finite =>
      (plain envelope member value stated).2]
    have same : envelopes.map Envelope.readBack = envelopes.map id :=
      List.map_congr_left fun envelope member =>
        Envelope.readBack_eq fun value stated => (plain envelope member value stated).1
    rw [same, List.map_id]

theorem call?_message (operation : Operation) (short : operation.message.length < UInt64.size) :
    operation.call.method.call? operation.message = some operation.call := by
  cases operation with
  | update envelope =>
    exact congrArg (Option.map Rpc.Call.updateMetric)
      (envelope.optionalOfWire?_optionalToWire short)
  | updates envelopes =>
    exact congrArg (Option.map Rpc.Call.updateMetrics)
      (Envelope.manyOfWire?_manyToWire envelopes (Envelope.short_of_mem short))
  | query wanted => exact congrArg (Option.map Rpc.Call.getMetric) (wanted.ofWire?_toWire short)
  | index => rfl

/-- A message is read as the operation that it was written for. -/
theorem called?_message {operation : Operation} {request : Http.Request}
    (path : request.target.path = operation.call.method.path)
    (plain : request.headers.values Rpc.encodingHeader = [])
    (body : request.body = Rpc.Frame.write operation.message)
    (short : operation.message.length ≤ Rpc.Frame.longest) :
    Rpc.called? request = some operation.call := by
  have method : Rpc.Method.ofPath? request.target.path = some operation.call.method := by
    rw [path, Rpc.Method.ofPath?_path]
  have encoding := Rpc.unsupportedEncoding?_eq_none plain
  have inside : operation.message.length < UInt64.size := Nat.lt_of_le_of_lt short (by decide)
  have framed := Rpc.Frame.call_write short (operation.call?_message inside)
  simp only [Rpc.called?, method, encoding, body, framed]
  rfl

end Operation

/-! ### Answers alike -/

/-- The answer to a document and the answer to a call say the same. -/
inductive Http.Response.Corresponds : Http.Response → Http.Response → Prop
  | metric (envelope : Envelope) :
    Corresponds (.ofBytes 200 documentType envelope.write)
      (Rpc.replying (Rpc.Frame.write (Envelope.optionalToWire (some envelope))))
  | names (listed : List String) :
    Corresponds (.ofBytes 200 pageType (Bytes.ofText (",\n".intercalate listed)))
      (Rpc.replying (Rpc.Frame.write (Wire.namesToWire listed)))
  | done : Corresponds (.bare 200) (Rpc.replying (Rpc.Frame.write []))
  | refused (message : String) :
    Corresponds (.plain 400 message) (Rpc.ending ⟨.invalidArgument, message⟩)
  | unknown (message : String) :
    Corresponds (.plain 404 message) (Rpc.ending ⟨.notFound, message⟩)
  | failed (message : String) :
    Corresponds (.plain 500 message) (Rpc.ending ⟨.internal, message⟩)

theorem Http.Response.corresponds_ofServiceError (error : ServiceError) :
    Corresponds (.ofServiceError error) (Rpc.ending error.rpcStatus) := by
  cases error with
  | invalid fault => exact .refused fault.message
  | badRequest reason => exact .refused reason
  | notFound reason => exact .unknown reason
  | storage fault => exact .failed fault.message
  | unsuccessful reason => exact .failed (ServiceError.unsuccessful reason).message

variable {σ : Type}

/-- Both framings have done the same and say the same. -/
def AnsweredAlike (service : Service σ) (session : Session σ) (route : Http.Route)
    (asked called : Http.Request) : Prop :=
  ∃ response answer after,
    (Http.Endpoint.handle service route asked).run session = (response, after) ∧
      (Rpc.handle service called).run session = (answer, after) ∧ response.Corresponds answer

section Alike

variable {service : Service σ} {route : Http.Route} {asked called : Http.Request} {call : Rpc.Call}

/-- Both framings answer what comes of one piece of work. -/
theorem answeredAlike_of_work {α : Type} {work : Serving σ α} {form : α → Http.Response}
    {reply : α → Rpc.Reply}
    (handled : Http.Endpoint.handle service route asked =
      Http.Endpoint.respond (work >>= fun answer => pure (form answer)))
    (performed : Rpc.perform service call =
      Rpc.serve work >>= fun answer => pure (reply answer))
    (read : Rpc.called? called = some call)
    (corresponds : ∀ answer,
      (form answer).Corresponds (Rpc.replying (Rpc.Frame.write (reply answer).toWire)))
    (session : Session σ) : AnsweredAlike service session route asked called := by
  unfold AnsweredAlike
  rw [handled, Rpc.handle_some read, performed]
  cases worked : work.run session with
  | mk result after =>
    have served : (Rpc.serve work).run session = _ := Rpc.serve_run work
    rw [worked] at served
    cases result with
    | ok answer =>
      refine ⟨_, _, after, Http.Endpoint.respond_ok (run_bind_ok _ worked), ?_, corresponds answer⟩
      rw [run_bind_ok _ served]
      rfl
    | error error =>
      refine ⟨_, _, after, Http.Endpoint.respond_error (run_bind_error _ worked), ?_,
        Http.Response.corresponds_ofServiceError error⟩
      rw [run_bind_error _ served]

theorem Operation.RoutedBy.posted {operation : Operation} (routed : operation.RoutedBy asked)
    (posts : operation.route.isRead = false) : asked.method = "POST" := by
  have method := routed.method
  rw [Http.Route.allows_of_posts posts] at method
  exact beq_iff_eq.mp method

theorem Operation.answeredAlike {operation : Operation} (routed : operation.RoutedBy asked)
    (stated : operation.StatedBy asked) (read : Rpc.called? called = some operation.call)
    (session : Session σ) :
    AnsweredAlike service session operation.route asked called := by
  cases operation with
  | update envelope =>
    have document : Http.Endpoint.document? Envelope.read? asked = some envelope := stated
    have handled := Http.Endpoint.handle_read service .update rfl rfl (fun _request => rfl)
      (routed.posted rfl) document
    have performed : Rpc.perform service (.updateMetric (some envelope)) =
        Rpc.serve (service.updateOne envelope) >>= fun answer => pure (.metric answer) := rfl
    exact answeredAlike_of_work handled performed read (fun answer => .metric answer) session
  | updates envelopes =>
    have document : Http.Endpoint.document? Envelope.readMany? asked = some envelopes := stated
    have handled := Http.Endpoint.handle_read service .updates rfl rfl (fun _request => rfl)
      (routed.posted rfl) document
    have performed : Rpc.perform service (.updateMetrics envelopes) =
        Rpc.serve (service.updateBatch envelopes) >>= fun _done => pure .nothing := rfl
    exact answeredAlike_of_work handled performed read (fun _done => .done) session
  | query wanted =>
    have document : Http.Endpoint.document? Query.read? asked = some wanted := stated
    have handled := Http.Endpoint.handle_read service .query rfl rfl (fun _request => rfl)
      (routed.posted rfl) document
    have performed : Rpc.perform service (.getMetric wanted) =
        Rpc.serve (service.getOne wanted) >>= fun metric =>
          pure (.metric (Envelope.ofMetric metric)) := rfl
    exact answeredAlike_of_work handled performed read
      (fun metric => .metric (Envelope.ofMetric metric)) session
  | index =>
    have allowed : Http.Route.allows .index asked.method = true := routed.method
    have handled : Http.Endpoint.handle service .index asked =
        Http.Endpoint.respond (service.names >>= fun listed => pure
          (Http.Response.ofBytes 200 Http.Response.pageType
            (Bytes.ofText (",\n".intercalate listed)))) := by
      simp only [Http.Endpoint.handle, allowed, if_true, Http.Route.decode, Http.Endpoint.answer,
        Service.index, bind_assoc, pure_bind]
    have performed : Rpc.perform service .getMetrics =
        Rpc.serve service.names >>= fun listed => pure (.names listed) := rfl
    exact answeredAlike_of_work handled performed read (fun listed => .names listed) session

end Alike

/-! ### Requests that are too long -/

theorem Operation.handle_long {operation : Operation} {request : Http.Request}
    (routed : operation.RoutedBy request) (documented : operation.route ≠ .index)
    (long : Http.Endpoint.longestDocument < request.body.length) (service : Service σ)
    (session : Session σ) :
    (Http.Endpoint.handle service operation.route request).run session =
      (Http.Endpoint.tooLong, session) := by
  have method := routed.method
  unfold Http.Endpoint.handle
  rw [if_pos method]
  cases operation with
  | index => exact absurd rfl documented
  | _ =>
    simp only [route, Http.Route.decode, Http.Endpoint.answer, Http.Endpoint.withDocument,
      if_pos long]
    rfl

theorem Operation.handle_longMessage {operation : Operation} {request : Http.Request}
    (path : request.target.path = operation.call.method.path)
    (plain : request.headers.values Rpc.encodingHeader = [])
    (body : request.body = Rpc.Frame.write operation.message)
    (long : Rpc.Frame.longest < operation.message.length)
    (fits : operation.message.length < UInt32.size) (service : Service σ) (session : Session σ) :
    (Rpc.handle service request).run session = (Rpc.ending Rpc.Frame.tooLong, session) := by
  have encoding := Rpc.unsupportedEncoding?_eq_none plain
  simp only [Rpc.handle, path, Rpc.Method.ofPath?_path, encoding, body,
    Rpc.Frame.call_long long fits]
  rfl

/-! ### Words -/

namespace Service

/-- Of a kind that there is and a name that is not empty, words are read as their value is. -/
theorem metricOfWords_eq {kind : Kind} {name : String} (named : name ≠ "") (text : String) :
    metricOfWords kind.word name text = (Sample.ofText kind name text).map (Metric.mk name) := by
  simp only [metricOfWords, Envelope.ofText_word, bind, Except.bind, if_neg named]
  cases Sample.ofText kind name text <;> rfl

/-- Words are written as the envelope is that carries what they are read as. -/
theorem updateWords_run (service : Service σ) {kind : Kind} {name text : String}
    (named : name ≠ "") {sample : Sample} (read : Sample.ofText kind name text = .ok sample)
    (session : Session σ) :
    (service.updateWords kind.word name text).run session =
      (((service.updateOne (.ofMetric ⟨name, sample⟩)).run session).1.map fun _stored => (),
        ((service.updateOne (.ofMetric ⟨name, sample⟩)).run session).2) := by
  have acceptable : Metric.isAcceptable ⟨name, sample⟩ = true :=
    Bool.and_eq_true_iff.mpr ⟨bne_iff_ne.mpr named, Sample.isFinite_of_text read⟩
  have metric := Envelope.conveys_ofMetric.taken ⟨name, sample⟩ acceptable
  have words : service.updateWords kind.word name text =
      service.attempt (service.backend.update ⟨name, sample⟩) >>= fun _stored =>
        service.afterWrite := by
    rw [updateWords, metricOfWords_eq named, read]
    rfl
  have envelope : service.updateOne (.ofMetric ⟨name, sample⟩) =
      service.attempt (service.backend.update ⟨name, sample⟩) >>= fun stored =>
        service.afterWrite >>= fun _done => pure (Envelope.ofMetric stored) := by
    rw [updateOne, metric]
    rfl
  -- Both fail where the store or the save fails, and differ only in what they answer at the end.
  rw [words, envelope]
  cases updated : (service.attempt (service.backend.update ⟨name, sample⟩)).run session with
  | mk result middle =>
    cases result with
    | error error =>
      rw [run_bind_error _ updated, run_bind_error _ updated]
      rfl
    | ok stored =>
      rw [run_bind_ok _ updated, run_bind_ok _ updated]
      cases saved : service.afterWrite.run middle with
      | mk result after =>
        cases result with
        | error error =>
          rw [run_bind_error _ saved]
          rfl
        | ok done =>
          rw [run_bind_ok _ saved]
          rfl

end Service

/-- What becomes of a metric in words, next to the envelope that carries what they are read as.
Words that cannot be read change nothing; others are merged, whether or not the snapshot that
follows can be written. -/
structure WordsAgree (service : Service ServerStore) (session : Session ServerStore)
    (host : FiledStore) (kind : Kind) (name text : String) : Prop where
  unread : ∀ error, Sample.ofText kind name text = .error error →
    (service.updateWords kind.word name text).run session = (.error (.invalid error), session)
  alike : ∀ sample, Sample.ofText kind name text = .ok sample →
    (service.updateWords kind.word name text).run session =
      (((service.updateOne (.ofMetric ⟨name, sample⟩)).run session).1.map fun _stored => (),
        ((service.updateOne (.ofMetric ⟨name, sample⟩)).run session).2)
  merged : ∀ sample, Sample.ofText kind name text = .ok sample →
    ∃ kept, ((service.updateWords kind.word name text).run session).2.store = .memory kept ∧
      kept.store = (host.store.update ⟨name, sample⟩).2
  done : host.CanKeep service.keepsFile → ∀ sample, Sample.ofText kind name text = .ok sample →
    ((service.updateWords kind.word name text).run session).1 = .ok ()

/-- A service over a store in memory that is one and the same in both framings. -/
structure FramesAlike (service : Service ServerStore) (session : Session ServerStore)
    (host : FiledStore) : Prop where
  documents : ∀ operation : Operation, operation.IsPlain → ∀ request : Http.Request,
    request.body = operation.document →
      request.body.length ≤ Http.Endpoint.longestDocument → operation.StatedBy request
  messages : ∀ (operation : Operation) (request : Http.Request),
    request.target.path = operation.call.method.path →
      request.headers.values Rpc.encodingHeader = [] →
        request.body = Rpc.Frame.write operation.message →
          operation.message.length ≤ Rpc.Frame.longest →
            Rpc.called? request = some operation.call
  alike : ∀ (operation : Operation) (asked called : Http.Request), operation.RoutedBy asked →
    operation.StatedBy asked → Rpc.called? called = some operation.call →
      AnsweredAlike service session operation.route asked called
  longDocuments : ∀ (operation : Operation) (request : Http.Request),
    operation.RoutedBy request → operation.route ≠ .index →
      Http.Endpoint.longestDocument < request.body.length →
        (Http.Endpoint.handle service operation.route request).run session =
          (Http.Endpoint.tooLong, session)
  longMessages : ∀ (operation : Operation) (request : Http.Request),
    request.target.path = operation.call.method.path →
      request.headers.values Rpc.encodingHeader = [] →
        request.body = Rpc.Frame.write operation.message →
          Rpc.Frame.longest < operation.message.length → operation.message.length < UInt32.size →
            (Rpc.handle service request).run session = (Rpc.ending Rpc.Frame.tooLong, session)
  words : ∀ kind name text, name ≠ "" → WordsAgree service session host kind name text

namespace Service

variable {backoff : Backoff} {keepsFile : Bool} {session : Session ServerStore}
  {host : FiledStore}

/-- A metric that is taken is merged, and stays so if the snapshot fails. -/
theorem store_updateWords (held : session.store = .memory host) {kind : Kind} {name text : String}
    (named : name ≠ "") {sample : Sample} (read : Sample.ofText kind name text = .ok sample) :
    ∃ kept, (((server backoff keepsFile).updateWords kind.word name text).run session).2.store =
        .memory kept ∧ kept.store = (host.store.update ⟨name, sample⟩).2 := by
  have merges : Backend.server.update ⟨name, sample⟩ session.now (.memory host) =
      (.ok (host.store.update ⟨name, sample⟩).1,
        .memory { host with store := host.store.merge [⟨name, sample⟩] }) := rfl
  have updated : ((server backoff keepsFile).attempt (Backend.server.update ⟨name, sample⟩)).run
      session = _ := attempt_merging_eq held merges
  have words : ((server backoff keepsFile).updateWords kind.word name text).run session =
      ((server backoff keepsFile).afterWrite).run { session with
        store := .memory { host with store := host.store.merge [⟨name, sample⟩] } } := by
    rw [updateWords, metricOfWords_eq named, read]
    exact (run_bind_ok _ (check_ok_run _)).trans (run_bind_ok _ updated)
  obtain ⟨file, kept⟩ := store_of_afterWrite rfl (Prod.eta
    (((server backoff keepsFile).afterWrite).run { session with
      store := .memory { host with store := host.store.merge [⟨name, sample⟩] } })).symm
  rw [words]
  exact ⟨_, kept, rfl⟩

theorem wordsAgree (held : session.store = .memory host) {kind : Kind} {name text : String}
    (named : name ≠ "") :
    WordsAgree (server backoff keepsFile) session host kind name text where
  unread := by
    intro error unread
    rw [updateWords, metricOfWords_eq named, unread]
    exact run_bind_error _ rfl
  alike := fun sample read => updateWords_run _ named read session
  merged := fun sample read => store_updateWords held named read
  done := by
    intro able sample read
    have keeps : host.CanKeep keepsFile := able
    rw [updateWords_eq keeps held, metricOfWords_eq named, read]
    rfl

/-- A service over a store in memory does and answers the same in both framings. -/
theorem framings_agree (backoff : Backoff) (keepsFile : Bool) (session : Session ServerStore)
    (host : FiledStore) (held : session.store = .memory host) :
    FramesAlike (server backoff keepsFile) session host where
  documents := fun _operation plain _request body short =>
    Operation.statedBy_document plain body short
  messages := fun _operation _request path plain body short =>
    Operation.called?_message path plain body short
  alike := fun _operation _asked _called routed stated read =>
    Operation.answeredAlike routed stated read session
  longDocuments := fun _operation _request routed documented long =>
    Operation.handle_long routed documented long _ session
  longMessages := fun _operation _request path plain body long fits =>
    Operation.handle_longMessage path plain body long fits _ session
  words := fun _kind _name _text named => wordsAgree held named

/-- A server whose snapshots cannot be written, because there is a directory in their place. -/
def blockedSession : Session ServerStore :=
  ⟨.memory ⟨.empty, some ⟨"metrics.json", .directory⟩⟩, 0, []⟩

def sampleUpdate : Operation := .update ⟨"Load", "gauge", some ⟨0x3FB999999999999A⟩, some 3⟩

def sampleDocument : Http.Request :=
  ⟨"POST", ⟨"/update/", "/update/"⟩, .empty, sampleUpdate.document⟩

def sampleCall : Http.Request :=
  ⟨"POST", ⟨"/", Rpc.Method.updateMetric.path⟩, .empty, Rpc.Frame.write sampleUpdate.message⟩

theorem framings_agree_blockedSession :
    FramesAlike (server .never true) blockedSession
        ⟨.empty, some ⟨"metrics.json", .directory⟩⟩ ∧
      AnsweredAlike (server .never true) blockedSession .update sampleDocument sampleCall := by
  have alike : FramesAlike (server .never true) blockedSession
      ⟨.empty, some ⟨"metrics.json", .directory⟩⟩ :=
    framings_agree .never true blockedSession _ rfl
  have plain : sampleUpdate.IsPlain := by
    intro envelope member value stated
    obtain rfl := List.mem_singleton.mp member
    obtain rfl := Option.mem_some_iff.mp stated
    unfold Binary64.ReadsBack
    decide +kernel
  have stated := alike.documents sampleUpdate plain sampleDocument rfl (by decide +kernel)
  have read := alike.messages sampleUpdate sampleCall rfl rfl rfl (by decide +kernel)
  exact ⟨alike, alike.alike sampleUpdate _ _ ⟨by decide +kernel, by decide⟩ stated read⟩

/-- The counters in memory. -/
def countersOf : ServerStore → List (String × Int64)
  | .memory host => host.store.counters.entries
  | .table _ => []

/-- An envelope of no kind there is, with a name that makes its document too long. -/
def longEnvelope : Envelope :=
  ⟨String.ofList (List.replicate Http.Endpoint.longestDocument 'a'), "nope", none, none⟩

theorem document_longEnvelope :
    Http.Endpoint.longestDocument < longEnvelope.write.length := by
  have letters : longEnvelope.name.toList = List.replicate Http.Endpoint.longestDocument 'a' :=
    String.toList_ofList
  have name : (Bytes.ofText longEnvelope.name).length = Http.Endpoint.longestDocument := by
    rw [Bytes.ofText_eq_map, letters, List.length_map, List.length_replicate]
    intro letter member
    rw [letters] at member
    rw [List.eq_of_mem_replicate member]
    decide
  rw [← name]
  exact longEnvelope.length_name_lt_write

/-- A metric in words that is answered with an error is in the store all the same, and a document
that is too long is answered otherwise than a message with the same envelope. -/
theorem framings_differ :
    (((server .never true).updateWords "counter" "c" "1").run blockedSession).1.toBool = false ∧
      countersOf blockedSession.store = [] ∧
      countersOf (((server .never true).updateWords "counter" "c" "1").run
        blockedSession).2.store = [("c", 1)] ∧
      (Http.Endpoint.handle (server .never true) .update
        ⟨"POST", ⟨"/update/", "/update/"⟩, .empty, longEnvelope.write⟩).run blockedSession =
          (Http.Endpoint.tooLong, blockedSession) ∧
      (Rpc.perform (server .never true) (.updateMetric (some longEnvelope))).run.run
        blockedSession =
          (.error ⟨.invalidArgument, "invalid metric type: nope"⟩, blockedSession) := by
  have routed : Operation.RoutedBy (.update longEnvelope)
      ⟨"POST", ⟨"/update/", "/update/"⟩, .empty, longEnvelope.write⟩ :=
    ⟨by decide +kernel, by decide⟩
  have refused : longEnvelope.metric = .error (.invalidKind (.unknown "nope")) := rfl
  refine ⟨by decide +kernel, rfl, by decide +kernel,
    Operation.handle_long routed nofun document_longEnvelope _ _, ?_⟩
  have update : ((server .never true).updateOne longEnvelope).run blockedSession =
      (.error (.invalid (.invalidKind (.unknown "nope"))), blockedSession) := by
    rw [updateOne, refused]
    exact run_bind_error _ rfl
  have served : (Rpc.serve ((server .never true).updateOne longEnvelope)).run blockedSession = _ :=
    Rpc.serve_run _
  rw [update] at served
  exact run_bind_error _ served

end Service

end Telemetry
