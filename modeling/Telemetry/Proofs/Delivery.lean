import Telemetry.Agent.Delivery
import Telemetry.Proofs.Addresses
import Telemetry.Proofs.Envelopes
import Telemetry.Proofs.Messages
import Telemetry.Proofs.Pipelines
import Telemetry.Proofs.Responses
/-!
A batch from an agent to a server whose settings match (`Pairing`). `Pairing.send_batch` says that
in either framing the batch is merged as it is, or is rejected for good and leaves no trace,
according to whether all of its metrics are acceptable.
-/

namespace Telemetry

open Crypto

/-! ### What the agent makes of an answer -/

namespace Rpc

theorem code_of_replying (trace : String) (message : Bytes) :
    (endedWith? (Http.Journal.noted true trace (replying message))).map Status.code =
      some .ok := by
  rw [endedWith?_replying]
  rfl

theorem code_of_ending (trace : String) (status : Status) :
    (endedWith? (Http.Journal.noted true trace (ending status))).map Status.code =
      some status.code := by
  rw [endedWith?_noted trace (states_ending status)]
  rfl

end Rpc

namespace Transport

theorem judgeDocument_of_success {response : Http.Response} (success : response.status = 200) :
    judgeDocument response = .ok () := by
  unfold judgeDocument
  rw [success]
  rfl

theorem judgeDocument_of_refusal {response : Http.Response} (refusal : response.status = 400) :
    ∃ detail, judgeDocument response = .error (.rejected detail) := by
  unfold judgeDocument
  rw [refusal]
  exact ⟨_, rfl⟩

theorem judgeCall_of_success {response : Http.Response}
    (success : (Rpc.endedWith? response).map Rpc.Status.code = some .ok) :
    judgeCall response = .ok () := by
  obtain ⟨status, ended, code⟩ := Option.map_eq_some_iff.mp success
  simp only [judgeCall, ended, Option.getD_some, code, if_true]

theorem judgeCall_of_refusal {response : Http.Response}
    (refusal : (Rpc.endedWith? response).map Rpc.Status.code = some .invalidArgument) :
    ∃ detail, judgeCall response = .error (.rejected detail) := by
  obtain ⟨status, ended, code⟩ := Option.map_eq_some_iff.mp refusal
  simp only [judgeCall, ended, Option.getD_some, code]
  exact ⟨_, rfl⟩

end Transport

/-! ### Matching settings -/

/-- The settings of an agent and of a server that match: one secret, the two halves of one key or
none, and no trusted subnet or one with the address that the agent states. -/
structure Pairing where
  secret : Bytes
  key : Option Rsa.PrivateKey
  usable : ∀ held ∈ key, held.Inverts ∧ Encryption.overhead < held.size
  filler : Rsa.Filler
  authority : String
  named : authority.toList ≠ []
  letters : authority.toList.all Http.Target.isAuthorityLetter = true
  trusted : TrustedSubnet
  address : Option String
  admitted : ∀ subnet ∈ trusted.subnet, ∃ text ∈ address, ∃ parsed,
    Net.Address.ofText? text = some parsed ∧ subnet.contains parsed = true

namespace Pairing

variable (pairing : Pairing)

def transport (framing : Framing) : Transport where
  framing := framing
  endpoint := "http://" ++ pairing.authority
  pipeline := .sender pairing.secret (pairing.key.map Rsa.PrivateKey.publicKey) pairing.filler
  address := pairing.address

@[simp] theorem framing_transport (framing : Framing) :
    (pairing.transport framing).framing = framing := rfl

def gateway : Gateway := .new pairing.secret pairing.key pairing.trusted

def application (backoff : Backoff) (keepsFile : Bool) : Application ServerStore :=
  ⟨pairing.gateway, .server backoff keepsFile⟩

def link (backoff : Backoff) (keepsFile : Bool) (framing : Framing) (trace : String) :
    Link (Session ServerStore) := fun request => do
  return some (← (pairing.application backoff keepsFile).answer framing trace request)

/-! ### The target of documents -/

theorem isAuthority_of_letter {letter : Char}
    (legal : Http.Target.isAuthorityLetter letter = true) :
    (letter != '/' && letter != '?' && letter != '#') = true := by
  simp only [Bool.and_eq_true, bne_iff_ne]
  refine ⟨⟨?_, ?_⟩, ?_⟩ <;>
  · rintro rfl
    revert legal
    decide

theorem withoutSlashes_endpoint :
    AgentConfig.withoutSlashes ("http://" ++ pairing.authority) =
      "http://" ++ pairing.authority := by
  have whole : ("http://" ++ pairing.authority).toList.reverse.dropWhile (· == '/') =
      ("http://" ++ pairing.authority).toList.reverse := by
    rw [String.toList_append, List.reverse_append]
    cases reversed : pairing.authority.toList.reverse with
    | nil => exact absurd (List.reverse_eq_nil_iff.mp reversed) pairing.named
    | cons last others =>
      have member : last ∈ pairing.authority.toList := by
        rw [← List.mem_reverse, reversed]
        exact List.mem_cons_self
      have legal := isAuthority_of_letter (List.all_eq_true.mp pairing.letters last member)
      simp only [Bool.and_eq_true, bne_iff_ne] at legal
      rw [List.cons_append, List.dropWhile_cons, if_neg (by simpa using legal.1.1)]
  rw [AgentConfig.withoutSlashes, whole, List.reverse_reverse, String.ofList_toList]

theorem takeWhile_authority (rest : List Char) :
    (pairing.authority.toList ++ '/' :: rest).takeWhile
      (fun letter => letter != '/' && letter != '?' && letter != '#') =
        pairing.authority.toList ∧
    (pairing.authority.toList ++ '/' :: rest).dropWhile
      (fun letter => letter != '/' && letter != '?' && letter != '#') = '/' :: rest := by
  have legal : ∀ letter ∈ pairing.authority.toList,
      (letter != '/' && letter != '?' && letter != '#') = true := fun letter member =>
    isAuthority_of_letter (List.all_eq_true.mp pairing.letters letter member)
  constructor
  · rw [List.takeWhile_append_of_pos legal]
    simp
  · rw [List.dropWhile_append_of_pos legal]
    simp

theorem path_afterScheme? (scheme : List Char) :
    (Http.Target.afterScheme? scheme (pairing.authority.toList ++ '/' :: "updates/".toList)).map
      Http.Target.path = some "/updates/" := by
  obtain ⟨taken, dropped⟩ := pairing.takeWhile_authority "updates/".toList
  have rest : Http.Target.pathAndQuery? ('/' :: "updates/".toList) =
      some ("/updates/".toList, []) := by decide
  have legal : ¬(pairing.authority.toList.isEmpty ||
      !pairing.authority.toList.all Http.Target.isAuthorityLetter) = true := by
    rw [pairing.letters]
    simpa using pairing.named
  simp only [Http.Target.afterScheme?, taken, dropped, if_neg legal, rest]
  rfl

/-- Documents go to the route of batches, also where the target is too long to be read again. -/
theorem path_document : (pairing.transport .document).target.path = "/updates/" := by
  have url : (pairing.transport .document).url =
      "http://" ++ pairing.authority ++ "/updates/" :=
    congrArg (· ++ "/updates/") pairing.withoutSlashes_endpoint
  have letters : ("http://" ++ pairing.authority ++ "/updates/").toList =
      'h' :: 't' :: 't' :: 'p' :: ':' :: '/' :: '/' ::
        (pairing.authority.toList ++ '/' :: "updates/".toList) := by
    rw [String.toList_append, String.toList_append]
    rfl
  have target : (pairing.transport .document).target.path =
      ((Http.Target.ofText? (pairing.transport .document).url).map
        Http.Target.path).getD "/updates/" := by
    unfold Transport.target
    simp only [framing_transport]
  rw [target, url, Http.Target.ofText?]
  by_cases long :
      Http.Target.longest < ("http://" ++ pairing.authority ++ "/updates/").utf8ByteSize
  · rw [if_pos long]
    rfl
  · rw [if_neg long, letters]
    exact congrArg (Option.getD · "/updates/") (pairing.path_afterScheme? "http".toList)

/-! ### The way of a batch -/

def request (framing : Framing) (sealed_ : Parcel) : Http.Request :=
  ⟨"POST", (pairing.transport framing).target, sealed_.headers, sealed_.body⟩

/-- The request as it was before it was sealed, but for its headers. -/
def passing (framing : Framing) (batch : Batch) (headers : Headers) : Http.Request :=
  ⟨"POST", (pairing.transport framing).target, headers,
    ((pairing.transport framing).plainParcel batch).body⟩

/-- A batch and its sealed form are no longer than the server allows. -/
structure Fits (framing : Framing) (batch : Batch) : Prop where
  plain : match framing with
    | .document => (Envelope.writeMany (batch.map Envelope.ofMetric)).length ≤
        Http.Endpoint.longestDocument
    | .call => (Envelope.manyToWire (batch.map Envelope.ofMetric)).length ≤ Rpc.Frame.longest
  sealed_ : ∀ parcel, (pairing.transport framing).sealBatch batch = .ok parcel →
    parcel.body.length ≤ Gateway.longestRequest

/-- What the agent writes in front of its batches is none of the fields of sealing, and the address
it states is the one that it has. -/
theorem plain_headers (framing : Framing) (batch : Batch) :
    ((pairing.transport framing).plainParcel batch).headers.contains
      HeaderName.contentEncoding = false ∧
    ((pairing.transport framing).plainParcel batch).headers.contains HeaderName.signature =
      false ∧
    ((pairing.transport framing).plainParcel batch).headers.values HeaderName.realAddress =
      (pairing.address.map Bytes.ofText).toList := by
  obtain ⟨_, _, _, _, _, _, _, _, address, _⟩ := pairing
  cases framing <;> cases address <;> exact ⟨rfl, rfl, rfl⟩

theorem plain_call (batch : Batch) :
    ((pairing.transport .call).plainParcel batch).headers.values Rpc.encodingHeader = [] ∧
    ((pairing.transport .call).plainParcel batch).headers.values HeaderName.contentType =
      [Bytes.ofText Rpc.contentType] := by
  obtain ⟨_, _, _, _, _, _, _, _, address, _⟩ := pairing
  cases address <;> exact ⟨rfl, rfl⟩

theorem admits {headers : Headers}
    (stated : headers.values HeaderName.realAddress =
      (pairing.address.map Bytes.ofText).toList) :
    pairing.gateway.trusted.check headers = .ok () := by
  change pairing.trusted.check headers = .ok ()
  have admitted := pairing.admitted
  cases trusted : pairing.trusted with
  | mk subnet =>
    cases subnet with
    | none => rfl
    | some subnet =>
      rw [trusted] at admitted
      obtain ⟨text, held, parsed, read, inside⟩ := admitted subnet rfl
      rw [show pairing.address = some text from held] at stated
      exact TrustedSubnet.check_of_contains stated read inside

/-- Every batch that fits reaches the service, as it was before it was sealed. -/
theorem received {framing : Framing} {batch : Batch} (fits : pairing.Fits framing batch) :
    ∃ (sealed_ : Parcel) (passed : Headers),
      (pairing.transport framing).sealBatch batch = .ok sealed_ ∧
      pairing.gateway.received? (pairing.request framing sealed_) =
        some (pairing.passing framing batch passed) ∧
      (∀ name, name ≠ HeaderName.contentLength → name ≠ HeaderName.contentEncoding →
        name ≠ HeaderName.signature → passed.values name =
          ((pairing.transport framing).plainParcel batch).headers.values name) := by
  obtain ⟨plain, unsigned, address⟩ := pairing.plain_headers framing batch
  obtain ⟨sealed_, passed, wrapped, kept, opened, arrives⟩ :=
    Gateway.unwrap_wrap pairing.secret pairing.key pairing.filler pairing.trusted
      ((pairing.transport framing).plainParcel batch) pairing.usable plain unsigned
  have sealed : (pairing.transport framing).sealBatch batch = .ok sealed_ := by
    unfold Transport.sealBatch
    rw [show (pairing.transport framing).pipeline.wrap _ = _ from wrapped]
  have admitted : pairing.gateway.trusted.check sealed_.headers = .ok () := by
    apply pairing.admits
    rw [kept _ (by decide) (by decide) (by decide), address]
  refine ⟨sealed_, passed.headers, sealed, ?_, ?_⟩
  · rw [passing, ← arrives.body]
    exact Gateway.received?_eq_some admitted (fits.sealed_ sealed_ sealed) opened
  · intro name notLength notCoding notSignature
    exact arrives.others name notCoding notSignature notLength

variable (backoff : Backoff) (keepsFile : Bool) (trace : String)

theorem send_of_answer {framing : Framing} {batch : Batch} {sealed_ : Parcel}
    (sealed : (pairing.transport framing).sealBatch batch = .ok sealed_)
    {session after : Session ServerStore} {response : Http.Response}
    (answered : ((pairing.application backoff keepsFile).answer framing trace
      (pairing.request framing sealed_)).run session = (response, after)) :
    ((pairing.transport framing).send (pairing.link backoff keepsFile framing trace) batch).run
      session = ((pairing.transport framing).judge response, after) := by
  have linked : (pairing.link backoff keepsFile framing trace
      (pairing.request framing sealed_)).run session =
      match ((pairing.application backoff keepsFile).answer framing trace
        (pairing.request framing sealed_)).run session with
      | (response, after) => (some response, after) := rfl
  rw [answered, request] at linked
  rw [Transport.send, sealed]
  simp only [StateT.run_bind]
  rw [linked]
  rfl

variable {session : Session ServerStore} {host : FiledStore}

/-- What comes of a batch that was read from the envelopes `read`. -/
def outcome (keepsFile : Bool) (host : FiledStore) (read : List Envelope) :
    Except ServiceError Unit × FiledStore :=
  match Envelope.metrics read with
  | .error error => (.error (.invalid error), host)
  | .ok metrics => (.ok (), host.written keepsFile metrics)

theorem updateBatch_outcome (able : host.CanKeep keepsFile) (held : session.store = .memory host)
    (read : List Envelope) :
    ((Service.server backoff keepsFile).updateBatch read).run session =
      ((outcome keepsFile host read).1,
        { session with store := .memory (outcome keepsFile host read).2 }) := by
  rw [Service.updateBatch_eq able held, outcome]
  cases Envelope.metrics read with
  | error error => rw [← held]
  | ok metrics => rfl

/-- A batch that is sent as a document is an update of what is read from it, on the same store, and
its result decides about the answer. -/
theorem send_document_of_read {batch : Batch} (fits : pairing.Fits .document batch)
    {read : List Envelope}
    (decoded : Envelope.readMany? (Envelope.writeMany (batch.map Envelope.ofMetric)) =
      some read) (session : Session ServerStore) :
    ∃ begun result updated response last, begun.store = session.store ∧
      ((Service.server backoff keepsFile).updateBatch read).run begun = (result, updated) ∧
      ((pairing.transport .document).send (pairing.link backoff keepsFile .document trace)
        batch).run session = (Transport.judgeDocument response, last) ∧
      response.status = (Http.Response.ofOutcome result).status ∧
      last.store = updated.store := by
  obtain ⟨sealed_, passed, sealed, received, _kept⟩ := pairing.received fits
  cases done : ((Service.server backoff keepsFile).updateBatch read).run
      (session.log [Http.Journal.requestEvent (pairing.passing .document batch passed)]) with
  | mk result updated =>
    have posted : (pairing.passing .document batch passed).method = "POST" := rfl
    obtain ⟨events, around⟩ := Gateway.around_run received .document trace
      (Http.Endpoint.updates_run posted fits.plain decoded done)
    have route : Http.Route.ofPath? (pairing.request .document sealed_).target.path =
        some .updates := by
      rw [show (pairing.request .document sealed_).target.path = _ from pairing.path_document]
      decide
    have answered :=
      Application.document_run (pairing.application backoff keepsFile) route around
    refine ⟨session.log _, result, updated, _, _, rfl, done,
      pairing.send_of_answer backoff keepsFile trace sealed answered, ?_, rfl⟩
    exact Gateway.status_sent _ _ _ _ _ _ _ _

theorem send_document (able : host.CanKeep keepsFile) (held : session.store = .memory host)
    {batch : Batch} (fits : pairing.Fits .document batch) {read : List Envelope}
    (decoded : Envelope.readMany? (Envelope.writeMany (batch.map Envelope.ofMetric)) =
      some read) :
    ∃ response after,
      ((pairing.transport .document).send (pairing.link backoff keepsFile .document trace)
        batch).run session = (Transport.judgeDocument response, after) ∧
      response.status = (Http.Response.ofOutcome (outcome keepsFile host read).1).status ∧
      after.store = .memory (outcome keepsFile host read).2 := by
  obtain ⟨begun, result, updated, response, last, same, done, sent, status, stored⟩ :=
    pairing.send_document_of_read backoff keepsFile trace fits decoded session
  rw [updateBatch_outcome backoff keepsFile able (same.trans held) read] at done
  cases done
  exact ⟨response, last, sent, status, stored⟩

/-- A batch that is sent as a call is an update of the same envelopes, on the same store, and its
result decides about the answer. -/
theorem send_call_of_fits {batch : Batch} (fits : pairing.Fits .call batch)
    (session : Session ServerStore) :
    ∃ begun result updated last, begun.store = session.store ∧
      ((Service.server backoff keepsFile).updateBatch (batch.map Envelope.ofMetric)).run begun =
        (result, updated) ∧
      ((pairing.transport .call).send (pairing.link backoff keepsFile .call trace)
        batch).run session =
        (Transport.judgeCall (Http.Journal.noted true trace (Rpc.ofOutcome result)), last) ∧
      last.store = updated.store := by
  obtain ⟨sealed_, passed, sealed, received, kept⟩ := pairing.received fits
  have short : (Envelope.manyToWire (batch.map Envelope.ofMetric)).length < UInt64.size :=
    Nat.lt_of_le_of_lt fits.plain (by decide)
  have framed : Rpc.Frame.call .updateMetrics (pairing.passing .call batch passed).body =
      .ok (.updateMetrics (batch.map Envelope.ofMetric)) := by
    refine Rpc.Frame.call_write fits.plain ?_
    rw [Rpc.Method.call?, Envelope.manyOfWire?_manyToWire _ (Envelope.short_of_mem short)]
    rfl
  have unpacked : passed.values Rpc.encodingHeader = [] := by
    rw [kept _ (by decide) (by decide) (by decide), (pairing.plain_call batch).1]
  have calls : Http.Journal.isCall passed = true := by
    have type : passed.values HeaderName.contentType = [Bytes.ofText Rpc.contentType] := by
      rw [kept _ (by decide) (by decide) (by decide), (pairing.plain_call batch).2]
    have seen : Headers.visible? (Bytes.ofText Rpc.contentType) = some Rpc.contentType := by
      decide
    rw [Http.Journal.isCall, Http.Journal.contentType, Headers.text?_eq, type, List.head?_cons,
      Option.bind_some, seen, Option.getD_some]
    decide +kernel
  cases done : ((Service.server backoff keepsFile).updateBatch (batch.map Envelope.ofMetric)).run
      (session.log [Http.Journal.requestEvent (pairing.passing .call batch passed)]) with
  | mk result updated =>
    obtain ⟨events, around⟩ := Gateway.around_run received .call trace
      (Rpc.updateMetrics_run rfl unpacked framed done)
    have answered : ((pairing.application backoff keepsFile).answer .call trace
      (pairing.request .call sealed_)).run session = _ := around
    have sent := pairing.send_of_answer backoff keepsFile trace sealed answered
    simp only [Gateway.sent, show (pairing.passing .call batch passed).headers = passed from rfl,
      calls] at sent
    exact ⟨session.log _, result, updated, _, rfl, done, sent, rfl⟩

theorem send_call (able : host.CanKeep keepsFile) (held : session.store = .memory host)
    {batch : Batch} (fits : pairing.Fits .call batch) :
    ∃ after,
      ((pairing.transport .call).send (pairing.link backoff keepsFile .call trace)
        batch).run session =
        (Transport.judgeCall (Http.Journal.noted true trace
          (Rpc.ofOutcome (outcome keepsFile host (batch.map Envelope.ofMetric)).1)), after) ∧
      after.store = .memory (outcome keepsFile host (batch.map Envelope.ofMetric)).2 := by
  obtain ⟨begun, result, updated, last, same, done, sent, stored⟩ :=
    pairing.send_call_of_fits backoff keepsFile trace fits session
  rw [updateBatch_outcome backoff keepsFile able (same.trans held)] at done
  cases done
  exact ⟨last, sent, stored⟩

/-- A batch in a document is read with each of its levels as a document gives it back. -/
theorem readMany?_writeMany {batch : Batch} (reads : ∀ metric ∈ batch, ∀ level,
      metric.sample = .gauge level → level.isFinite = true → level.ReadsBack) :
    Envelope.readMany? (Envelope.writeMany (batch.map Envelope.ofMetric)) =
      some (batch.map fun metric => (Envelope.ofMetric metric).readBack) := by
  rw [Envelope.readMany?_writeMany, List.map_map]
  · rfl
  · intro envelope member level stated
    obtain ⟨metric, inside, rfl⟩ := List.mem_map.mp member
    exact reads metric inside level (Envelope.sample_of_value stated)

theorem outcome_cases {way : Metric → Envelope} (conveys : Envelope.Conveys way)
    (host : FiledStore) (batch : Batch) :
    (batch.all Metric.isAcceptable = true ∧
      outcome keepsFile host (batch.map way) = (.ok (), host.written keepsFile batch)) ∨
    (batch.all Metric.isAcceptable = false ∧ ∃ error,
      outcome keepsFile host (batch.map way) = (.error (.invalid error), host)) := by
  cases acceptable : batch.all Metric.isAcceptable with
  | true =>
    left
    refine ⟨rfl, ?_⟩
    rw [outcome, conveys.metrics_ok acceptable]
  | false =>
    right
    obtain ⟨error, refused⟩ := conveys.metrics_error acceptable
    refine ⟨rfl, error, ?_⟩
    rw [outcome, refused]

/-- A batch is delivered in either framing: it is merged in its order if all of its metrics are
acceptable, and else it is rejected for good and changes nothing. -/
theorem send_batch (framing : Framing) (session : Session ServerStore) (host : FiledStore)
    (able : host.CanKeep keepsFile) (held : session.store = .memory host) (batch : Batch)
    (fits : pairing.Fits framing batch)
    (reads : framing = .document → ∀ metric ∈ batch, ∀ level,
      metric.sample = .gauge level → level.isFinite = true → level.ReadsBack) :
    ∃ result after,
      ((pairing.transport framing).send (pairing.link backoff keepsFile framing trace)
        batch).run session = (result, after) ∧
      if batch.all Metric.isAcceptable then
        result = .ok () ∧ ∃ kept, after.store = .memory kept ∧
          kept.store = host.store.merge batch
      else
        (∃ detail, result = .error (.rejected detail)) ∧ after.store = .memory host := by
  cases framing with
  | document =>
    have decoded := readMany?_writeMany (reads rfl)
    obtain ⟨response, after, sent, status, stored⟩ :=
      pairing.send_document backoff keepsFile trace able held fits decoded
    refine ⟨_, after, sent, ?_⟩
    rcases outcome_cases keepsFile Envelope.conveys_readBack host batch with
      ⟨acceptable, merged⟩ | ⟨unacceptable, error, refused⟩
    · rw [merged] at status stored
      rw [if_pos acceptable]
      exact ⟨Transport.judgeDocument_of_success status, _, stored,
        FiledStore.store_written keepsFile host batch⟩
    · rw [refused] at status stored
      rw [if_neg (by rw [unacceptable]; decide)]
      exact ⟨Transport.judgeDocument_of_refusal status, stored⟩
  | call =>
    obtain ⟨after, sent, stored⟩ := pairing.send_call backoff keepsFile trace able held fits
    refine ⟨_, after, sent, ?_⟩
    rcases outcome_cases keepsFile Envelope.conveys_ofMetric host batch with
      ⟨acceptable, merged⟩ | ⟨unacceptable, error, refused⟩
    · rw [merged] at stored ⊢
      rw [if_pos acceptable]
      exact ⟨Transport.judgeCall_of_success (Rpc.code_of_replying trace _), _, stored,
        FiledStore.store_written keepsFile host batch⟩
    · rw [refused] at stored ⊢
      rw [if_neg (by rw [unacceptable]; decide)]
      exact ⟨Transport.judgeCall_of_refusal (Rpc.code_of_ending trace _), stored⟩

/-- An agent with an address in the trusted subnet of its server, with a secret and a key. -/
def sample : Pairing where
  secret := [7]
  key := some .ofMersenne
  usable := by
    rintro _ ⟨⟩
    exact ⟨Rsa.PrivateKey.inverts_ofMersenne, by decide⟩
  filler := .standard
  authority := "localhost:8080"
  named := by decide
  letters := by decide
  trusted := ⟨some (.v4 0x0A000000 8)⟩
  address := some "10.0.0.7"
  admitted := by
    rintro _ ⟨⟩
    exact ⟨_, rfl, .v4 0x0A000007, by decide, by decide⟩

def sampleBatch : Batch := [.counter "Hits" 1, .gauge "Load" .one]

def spoiltBatch : Batch := [.counter "Hits" 1, .gauge "Load" .nan]

theorem fits_sample (framing : Framing) (batch : Batch)
    (known : batch = sampleBatch ∨ batch = spoiltBatch) : sample.Fits framing batch where
  plain := by rcases known with rfl | rfl <;> cases framing <;> decide +kernel
  sealed_ := by
    intro parcel sealed
    rcases known with rfl | rfl <;> cases framing <;>
    · cases sealed
      decide +kernel

def sampleHost : FiledStore := ⟨.empty, some ⟨"metrics.json", .missing⟩⟩

def sampleSession : Session ServerStore := ⟨.memory sampleHost, 0, []⟩

theorem send_sampleBatch :
    (((sample.transport .document).send (sample.link .never true .document "1")
      sampleBatch).run sampleSession).1 = .ok () ∧
    (((sample.transport .call).send (sample.link .never true .call "1")
      sampleBatch).run sampleSession).1 = .ok () ∧
    ∃ detail, (((sample.transport .call).send (sample.link .never true .call "1")
      spoiltBatch).run sampleSession).1 = .error (.rejected detail) := by
  have able : sampleHost.CanKeep true := fun _keeps => ⟨_, rfl, rfl⟩
  have reads : ∀ metric ∈ sampleBatch, ∀ level,
      metric.sample = .gauge level → level.isFinite = true → level.ReadsBack := by
    intro metric member level stated _finite
    rcases List.mem_pair.mp member with rfl | rfl
    · cases stated
    · cases stated
      unfold Binary64.ReadsBack
      decide +kernel
  refine ⟨?_, ?_, ?_⟩
  · obtain ⟨result, after, sent, taken⟩ := sample.send_batch .never true "1" .document
      sampleSession sampleHost able rfl sampleBatch (fits_sample _ _ (.inl rfl))
      fun _document => reads
    rw [sent]
    exact taken.1
  · obtain ⟨result, after, sent, taken⟩ := sample.send_batch .never true "1" .call
      sampleSession sampleHost able rfl sampleBatch (fits_sample _ _ (.inl rfl)) nofun
    rw [sent]
    exact taken.1
  · obtain ⟨result, after, sent, refused⟩ := sample.send_batch .never true "1" .call
      sampleSession sampleHost able rfl spoiltBatch (fits_sample _ _ (.inr rfl)) nofun
    rw [sent]
    exact refused.1

end Pairing

end Telemetry
