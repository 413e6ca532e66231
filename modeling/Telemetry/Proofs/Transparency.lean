import Telemetry.Proofs.Pipelines
import Telemetry.Proofs.Responses
/-!
Responses on their way out. Whether the pipeline for callers that take packed bodies is used, the
plain one or none at all, a response is signed as it is and then packed if it can be and may be
(`Gateway.sealResponse_eq`). So its caller finds in it what the handler answered
(`Http.Response.Carries`), and to a call the answer goes back as it is
(`Gateway.responses_transparent`).
-/

namespace Telemetry

variable {σ : Type}

/-! ### Packing -/

/-- The first content type is visible and, without its parameters and the blanks around it, that of
a document or that of a page, as this library writes them. -/
def Headers.StatesDocument (headers : Headers) : Prop :=
  ∃ text, headers.text? HeaderName.contentType = some text ∧
    (Text.trim (Text.before ';' text) = "application/json" ∨
      Text.trim (Text.before ';' text) = "text/html")

namespace Compression

variable {parcel : Parcel}

theorem packs_iff : packs parcel = true ↔ parcel.headers.StatesDocument := by
  unfold packs Headers.StatesDocument isCompressible
  cases parcel.headers.text? HeaderName.contentType with
  | none => simp
  | some text => simp [compressibleTypes]

theorem pack_eq_self (whole : packs parcel = false) : pack parcel = parcel :=
  if_neg (by rw [← packs, whole]; decide)

theorem body_pack (packed : packs parcel = true) :
    (pack parcel).body = Gzip.gzip parcel.body := by
  have shorter : pack parcel = _ := if_pos packed
  rw [shorter]
  rfl

theorem values_encoding_pack (packed : packs parcel = true) :
    (pack parcel).headers.values HeaderName.contentEncoding = [Bytes.ofText encoding] := by
  have shorter : pack parcel = _ := if_pos packed
  rw [shorter, Headers.values_insert, if_pos rfl]

theorem values_length_pack (packed : packs parcel = true) :
    (pack parcel).headers.values HeaderName.contentLength =
      [Bytes.ofText (Nat.repr (pack parcel).body.length)] := by
  have shorter : pack parcel = _ := if_pos packed
  rw [body_pack packed, shorter, Headers.values_insert, if_neg (by decide),
    Parcel.values_replaceBody, if_pos rfl]

end Compression

/-! ### Sealing -/

/-- What a caller gets of a response, where `accepts` tells whether it takes packed bodies. -/
structure Http.Response.Carries (secret : Bytes) (accepts : Bool)
    (response sent : Http.Response) : Prop where
  status : sent.status = response.status
  others : ∀ name, name ≠ HeaderName.contentLength → name ≠ HeaderName.contentEncoding →
    name ≠ HeaderName.signature → sent.headers.values name = response.headers.values name
  signature : sent.headers.values HeaderName.signature =
    if secret ≠ [] ∧ response.body ≠ [] then [Signature.digest secret response.body] else []
  /-- Only where the headers state an encoding, the body has to be unpacked. -/
  plain : (if sent.headers.contains HeaderName.contentEncoding then Gzip.gunzip? sent.body
    else some sent.body) = some response.body
  packed : accepts = true ∧ response.headers.StatesDocument →
    sent.headers.values HeaderName.contentEncoding = [Bytes.ofText "gzip"] ∧
      sent.headers.values HeaderName.contentLength =
        [Bytes.ofText (Nat.repr sent.body.length)]
  unpacked : ¬ (accepts = true ∧ response.headers.StatesDocument) →
    sent.headers.values HeaderName.contentEncoding = [] ∧ sent.body = response.body ∧
      sent.headers.values HeaderName.contentLength =
        response.headers.values HeaderName.contentLength

namespace Gateway

variable (secret : Bytes) (key : Option Crypto.Rsa.PrivateKey) (trusted : TrustedSubnet)

section Carries

variable {response : Http.Response}
  (unencoded : response.headers.values HeaderName.contentEncoding = [])
  (unsigned : response.headers.values HeaderName.signature = [])

theorem packs_signedParcel (response : Http.Response) :
    Compression.packs (signedParcel secret response) = true ↔ response.headers.StatesDocument := by
  rw [signedParcel, Signature.packs_sign]
  exact Compression.packs_iff

include unsigned

/-- The signature is that of the plain body, since a response is signed before it is packed. -/
theorem carries_of_packs (states : response.headers.StatesDocument) {sent : Http.Response}
    (status : sent.status = response.status)
    (headers : sent.headers = (Compression.pack (signedParcel secret response)).headers)
    (body : sent.body = (Compression.pack (signedParcel secret response)).body) :
    response.Carries secret true sent := by
  have packs : Compression.packs (signedParcel secret response) = true :=
    (packs_signedParcel secret response).mpr states
  have encoding := Compression.values_encoding_pack packs
  refine ⟨status, ?_, ?_, ?_, ?_, ?_⟩
  · intro name notLength notCoding notSignature
    rw [headers, Compression.values_pack _ name notLength notCoding]
    exact Signature.values_sign secret _ name notSignature
  · rw [headers, Compression.values_pack _ _ (by decide) (by decide)]
    exact Signature.values_sign_signature secret _ unsigned
  · have stated : sent.headers.contains HeaderName.contentEncoding = true := by
      rw [Headers.contains_eq, headers, encoding]
      rfl
    rw [if_pos stated, body, Compression.body_pack packs, Gzip.gunzip?_gzip]
    exact congrArg some (Signature.body_sign secret _)
  · intro _packs
    rw [headers, body]
    exact ⟨encoding, Compression.values_length_pack packs⟩
  · intro other
    exact absurd ⟨rfl, states⟩ other

include unencoded

theorem carries_of_signed {accepts : Bool}
    (whole : ¬ (accepts = true ∧ response.headers.StatesDocument)) {sent : Http.Response}
    (status : sent.status = response.status)
    (headers : sent.headers = (signedParcel secret response).headers)
    (body : sent.body = (signedParcel secret response).body) :
    response.Carries secret accepts sent := by
  have kept := Signature.values_sign secret ⟨response.headers, response.body⟩
  have encoding : sent.headers.values HeaderName.contentEncoding = [] := by
    rw [headers]
    exact (kept _ (by decide)).trans unencoded
  have same : sent.body = response.body := body.trans (Signature.body_sign secret _)
  refine ⟨status, ?_, ?_, ?_, ?_, ?_⟩
  · intro name _notLength _notCoding notSignature
    rw [headers]
    exact kept name notSignature
  · rw [headers]
    exact Signature.values_sign_signature secret _ unsigned
  · have silent : sent.headers.contains HeaderName.contentEncoding = false := by
      rw [Headers.contains_eq, encoding]
      rfl
    rw [if_neg (by rw [silent]; decide), same]
  · intro packs
    exact absurd packs whole
  · intro _whole
    refine ⟨encoding, same, ?_⟩
    rw [headers]
    exact kept _ (by decide)

theorem carries_sealResponse (accepts : Bool) :
    response.Carries secret accepts
      ((Gateway.new secret key trusted).sealResponse accepts response) := by
  rw [sealResponse_eq]
  by_cases states : accepts = true ∧ response.headers.StatesDocument
  · obtain ⟨rfl, document⟩ := states
    exact carries_of_packs secret unsigned document rfl rfl rfl
  · have leaving : (if accepts then Compression.pack (signedParcel secret response)
        else signedParcel secret response) = signedParcel secret response := by
      by_cases accepted : accepts = true
      · rw [if_pos accepted]
        apply Compression.pack_eq_self
        rw [← Bool.not_eq_true, packs_signedParcel]
        exact fun document => states ⟨accepted, document⟩
      · rw [if_neg accepted]
    rw [leaving]
    exact carries_of_signed secret unencoded unsigned states rfl rfl rfl

end Carries

/-- To a request that gets through, a handler's answer goes back in a response that carries it; to
a call, it is the response. -/
theorem responses_transparent {request passed : Http.Request}
    (received : (Gateway.new secret key trusted).received? request = some passed)
    {inner : Http.Handler σ} {session after : Session σ} {response : Http.Response}
    (answered : (inner passed).run session = (response, after)) :
    ((Gateway.new secret key trusted).admitting .call
      ((Gateway.new secret key trusted).opening .call inner) request).run session =
        (response, after) ∧
    (response.headers.contains HeaderName.contentEncoding = false →
      response.headers.contains HeaderName.signature = false →
      ∃ sent, ((Gateway.new secret key trusted).admitting .document
          ((Gateway.new secret key trusted).opening .document inner) request).run session =
            (sent, after) ∧
        response.Carries secret (acceptsPacked request.headers) sent) := by
  refine ⟨admitting_opening_run received .call answered, ?_⟩
  intro unencoded unsigned
  refine ⟨_, admitting_opening_run received .document answered, ?_⟩
  exact carries_sealResponse secret key trusted (Headers.values_of_contains unencoded)
    (Headers.values_of_contains unsigned) _

def samplePage : Http.Response :=
  Http.Response.ofBytes 200 Http.Response.pageType (Bytes.ofText "Alloc")

def pageHandler : Http.Handler Unit := fun _request => pure samplePage

def pageRequest : Http.Request :=
  ⟨"GET", ⟨"/", "/"⟩, ⟨[(HeaderName.acceptEncoding, Bytes.ofText "br, gzip;q=0.5")]⟩, []⟩

theorem responses_transparent_samplePage :
    ((Gateway.new [7] none ⟨none⟩).admitting .call
      ((Gateway.new [7] none ⟨none⟩).opening .call pageHandler) pageRequest).run ⟨(), 0, []⟩ =
        (samplePage, ⟨(), 0, []⟩) ∧
    ∃ sent, ((Gateway.new [7] none ⟨none⟩).admitting .document
        ((Gateway.new [7] none ⟨none⟩).opening .document pageHandler) pageRequest).run
          ⟨(), 0, []⟩ = (sent, ⟨(), 0, []⟩) ∧
      sent.status = 200 ∧
      sent.headers.values HeaderName.contentEncoding = [Bytes.ofText "gzip"] ∧
      sent.headers.values HeaderName.signature =
        [Signature.digest [7] (Bytes.ofText "Alloc")] ∧
      Gzip.gunzip? sent.body = some (Bytes.ofText "Alloc") := by
  have received : (Gateway.new [7] none ⟨none⟩).received? pageRequest = some pageRequest := rfl
  have answered : (pageHandler pageRequest).run ⟨(), 0, []⟩ = (samplePage, ⟨(), 0, []⟩) := rfl
  obtain ⟨untouched, carried⟩ := responses_transparent [7] none ⟨none⟩ received answered
  obtain ⟨sent, run, carries⟩ := carried (by decide) (by decide)
  have page : samplePage.headers.StatesDocument :=
    ⟨Http.Response.pageType, by decide, .inr (by decide)⟩
  have accepts : acceptsPacked pageRequest.headers = true := by decide
  obtain ⟨encoding, _length⟩ := carries.packed ⟨accepts, page⟩
  have stated : sent.headers.contains HeaderName.contentEncoding = true := by
    rw [Headers.contains_eq, encoding]
    rfl
  have unpacked := carries.plain
  rw [if_pos stated] at unpacked
  exact ⟨untouched, sent, run, carries.status, encoding, carries.signature, unpacked⟩

end Gateway

end Telemetry
