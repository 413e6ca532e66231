import Telemetry.Proofs.Sealing
/-!
The two pipelines of a connection. `Gateway.inbound_restores_sender` says that a server opens what
a client with the same secret and the matching key sealed, and what it then holds.
`Gateway.inbound_matches_signature` says of any request, honest or forged, that it passes exactly
if the signature it states is the digest of the body that the handlers will see.
-/

namespace Telemetry

open Crypto

/-- A parcel at the end of a connection: its body and its own fields are as they were sent. -/
structure Parcel.Arrives (secret : Bytes) (touched : Bool) (sent received : Parcel) : Prop where
  body : received.body = sent.body
  plain : received.headers.contains HeaderName.contentEncoding = false
  signature : received.headers.values HeaderName.signature =
    if secret ≠ [] ∧ sent.body ≠ [] then [Signature.digest secret sent.body] else []
  length : received.headers.values HeaderName.contentLength =
    if touched then [Bytes.ofText (Nat.repr sent.body.length)]
    else sent.headers.values HeaderName.contentLength
  others : ∀ name, name ≠ HeaderName.contentEncoding → name ≠ HeaderName.signature →
    name ≠ HeaderName.contentLength →
      received.headers.values name = sent.headers.values name

namespace Pipeline

/-- Whether a sender replaces the body of a parcel. -/
def touches (publicKey : Option Rsa.PublicKey) (parcel : Parcel) : Bool :=
  Compression.packs parcel || (publicKey.isSome && !parcel.body.isEmpty)

theorem run_cons_ok {step : Parcel → Transform → Except SealError Parcel} {parcel next : Parcel}
    {transform : Transform} (rest : List Transform) (done : step parcel transform = .ok next) :
    run step (transform :: rest) parcel = run step rest next := by
  rw [run, done]

theorem run_cons_error {step : Parcel → Transform → Except SealError Parcel} {parcel : Parcel}
    {transform : Transform} {error : SealError} (rest : List Transform)
    (failed : step parcel transform = .error error) :
    run step (transform :: rest) parcel = (some error, parcel) := by
  rw [run, failed]

end Pipeline

theorem Signature.packs_sign (secret : Bytes) (parcel : Parcel) :
    Compression.packs (sign secret parcel) = Compression.packs parcel := by
  unfold Compression.packs
  rw [Headers.text?_congr (values_sign secret parcel _ (by decide))]

/-- What is left to say once a parcel is back behind the signature. -/
theorem Parcel.Restores.arrives {secret : Bytes} {parcel received : Parcel} {touched : Bool}
    (plain : parcel.headers.values HeaderName.contentEncoding = [])
    (unsigned : parcel.headers.values HeaderName.signature = [])
    (back : Restores touched (Signature.sign secret parcel) received) :
    Arrives secret touched parcel received where
  body := back.body.trans (Signature.body_sign secret parcel)
  plain := by
    rw [Headers.contains_eq, back.others _ (by decide),
      Signature.values_sign secret parcel _ (by decide), plain]
    rfl
  signature := by
    rw [back.others _ (by decide), Signature.values_sign_signature secret parcel unsigned]
  length := by
    rw [back.length, Signature.body_sign, Signature.values_sign secret parcel _ (by decide)]
  others := by
    intro name _coding notSignature notLength
    rw [back.others name notLength, Signature.values_sign secret parcel name notSignature]

namespace Gateway

/-- What a sender sealed is opened by the gateway with the same secret and the matching key; on
its way it shows the fields that no transform is about. -/
theorem unwrap_wrap (secret : Bytes) (key : Option Rsa.PrivateKey)
    (filler : Rsa.Filler) (trusted : TrustedSubnet) (parcel : Parcel)
    (usable : ∀ private_ ∈ key, private_.Inverts ∧ Encryption.overhead < private_.size)
    (plain : parcel.headers.contains HeaderName.contentEncoding = false)
    (unsigned : parcel.headers.contains HeaderName.signature = false) :
    ∃ sealed_ received,
      (Pipeline.sender secret (key.map Rsa.PrivateKey.publicKey) filler).wrap parcel =
        (none, sealed_) ∧
      (∀ name, name ≠ HeaderName.contentLength → name ≠ HeaderName.contentEncoding →
        name ≠ HeaderName.signature →
          sealed_.headers.values name = parcel.headers.values name) ∧
      (Gateway.new secret key trusted).inbound.unwrap sealed_ = (none, received) ∧
      Parcel.Arrives secret
        (Pipeline.touches (key.map Rsa.PrivateKey.publicKey) parcel) parcel received := by
  have noCoding := Headers.values_of_contains plain
  have noSignature := Headers.values_of_contains unsigned
  have signedCoding : (Signature.sign secret parcel).headers.values
      HeaderName.contentEncoding = [] := by
    rw [Signature.values_sign secret parcel _ (by decide), noCoding]
  cases key with
  | none =>
    obtain ⟨opened, unpacked, back⟩ :=
      Compression.unpack_pack (Signature.sign secret parcel) signedCoding
    refine ⟨_, opened, rfl, ?_, ?_, ?_⟩
    · intro name notLength notCoding notSignature
      rw [Compression.values_pack _ _ notLength notCoding,
        Signature.values_sign _ _ _ notSignature]
    · change Pipeline.run Transform.unwrap [.compress, .sign secret] _ = _
      rw [Pipeline.run_cons_ok _ unpacked,
        Pipeline.run_cons_ok _ (Signature.check_sign secret parcel noSignature back)]
      rfl
    · rw [Signature.packs_sign] at back
      simpa [Pipeline.touches] using back.arrives noCoding noSignature
  | some private_ =>
    obtain ⟨inverts, large⟩ := usable private_ rfl
    obtain ⟨closed, encrypted, kept, disclosed⟩ :=
      Encryption.disclose_close inverts large filler (Signature.sign secret parcel)
    have closedCoding : closed.headers.values HeaderName.contentEncoding = [] := by
      rw [kept _ (by decide), signedCoding]
    obtain ⟨opened, unpacked, back⟩ := Compression.unpack_pack closed closedCoding
    obtain ⟨received, decrypted, whole⟩ := disclosed _ opened back
    have packs : Compression.packs closed = Compression.packs parcel := by
      rw [← Signature.packs_sign secret parcel]
      unfold Compression.packs
      rw [Headers.text?_congr (kept _ (by decide))]
    refine ⟨Compression.pack closed, received, ?_, ?_, ?_, ?_⟩
    · change Pipeline.run Transform.wrap
        [.sign secret, .encrypt (.sender private_.publicKey filler), .compress] parcel = _
      rw [Pipeline.run_cons_ok _ rfl, Pipeline.run_cons_ok _ encrypted]
      rfl
    · intro name notLength notCoding notSignature
      rw [Compression.values_pack _ _ notLength notCoding, kept _ notLength,
        Signature.values_sign _ _ _ notSignature]
    · change Pipeline.run Transform.unwrap
        [.compress, .encrypt (.receiver private_), .sign secret] _ = _
      rw [Pipeline.run_cons_ok _ unpacked, Pipeline.run_cons_ok _ decrypted,
        Pipeline.run_cons_ok _ (Signature.check_sign secret parcel noSignature whole)]
      rfl
    · rw [packs, Signature.body_sign] at whole
      simpa [Pipeline.touches] using whole.arrives noCoding noSignature

/-- A parcel comes out of the gateway as it went into its sender. -/
theorem inbound_restores_sender (secret : Bytes) (key : Option Rsa.PrivateKey)
    (filler : Rsa.Filler) (trusted : TrustedSubnet) (parcel : Parcel)
    (usable : ∀ private_ ∈ key, private_.Inverts ∧ Encryption.overhead < private_.size)
    (plain : parcel.headers.contains HeaderName.contentEncoding = false)
    (unsigned : parcel.headers.contains HeaderName.signature = false) :
    ∃ sealed_ received,
      (Pipeline.sender secret (key.map Rsa.PrivateKey.publicKey) filler).wrap parcel =
        (none, sealed_) ∧
      (Gateway.new secret key trusted).inbound.unwrap sealed_ = (none, received) ∧
      Parcel.Arrives secret
        (Pipeline.touches (key.map Rsa.PrivateKey.publicKey) parcel) parcel received := by
  obtain ⟨sealed_, received, wrapped, _kept, opened, arrives⟩ :=
    unwrap_wrap secret key filler trusted parcel usable plain unsigned
  exact ⟨sealed_, received, wrapped, opened, arrives⟩

def sampleParcel : Parcel where
  headers := ⟨[(HeaderName.contentType, Bytes.ofText "application/json"),
    ("x-note", [0xff, 0x80]), ("x-note", Bytes.ofText "again")]⟩
  body := Bytes.ofText "[\x7b\x22id\x22:\x22Hits\x22,\x22type\x22:\x22counter\x22,\x22delta\x22:1\x7d]"

theorem inbound_restores_sampleParcel :
    ∃ sealed_ received,
      (Pipeline.sender [7] (some Rsa.PrivateKey.ofMersenne.publicKey) .standard).wrap
        sampleParcel = (none, sealed_) ∧
      (Gateway.new [7] (some Rsa.PrivateKey.ofMersenne) ⟨none⟩).inbound.unwrap sealed_ =
        (none, received) ∧
      received.body = sampleParcel.body ∧
      received.headers.values "x-note" = [[0xff, 0x80], Bytes.ofText "again"] := by
  obtain ⟨sealed_, received, wrapped, opened, arrives⟩ :=
    inbound_restores_sender [7] (some Rsa.PrivateKey.ofMersenne) .standard ⟨none⟩ sampleParcel
      (by
        rintro _ ⟨⟩
        exact ⟨Rsa.PrivateKey.inverts_ofMersenne, by decide⟩)
      (by decide) (by decide)
  refine ⟨sealed_, received, wrapped, opened, arrives.body, ?_⟩
  rw [arrives.others "x-note" (by decide) (by decide) (by decide)]
  decide

/-! ### Requests of anybody -/

/-- A request without its packing and its encryption, whatever it states as its signature. -/
def reveal (key : Option Rsa.PrivateKey) (parcel : Parcel) : Except SealError Parcel :=
  (Compression.unpack parcel).bind
    (Encryption.disclose ((key.map Encryption.Keys.receiver).getD Encryption.Keys.none))

theorem values_reveal {key : Option Rsa.PrivateKey} {parcel plain : Parcel}
    (revealed : reveal key parcel = .ok plain) :
    plain.headers.values HeaderName.signature = parcel.headers.values HeaderName.signature := by
  unfold reveal at revealed
  cases unpacked : Compression.unpack parcel with
  | error fault =>
    rw [unpacked] at revealed
    cases revealed
  | ok opened =>
    rw [unpacked] at revealed
    rw [Encryption.values_disclose revealed _ (by decide),
      Compression.values_unpack unpacked _ (by decide) (by decide)]

/-- The signature is the last thing that a gateway looks at. -/
theorem unwrap_cases (secret : Bytes) (key : Option Rsa.PrivateKey) (trusted : TrustedSubnet)
    (parcel : Parcel) :
    (∃ plain, reveal key parcel = .ok plain ∧
      (Gateway.new secret key trusted).inbound.unwrap parcel =
        Pipeline.run Transform.unwrap [.sign secret] plain) ∨
    (∃ fault, reveal key parcel = .error fault ∧
      ((Gateway.new secret key trusted).inbound.unwrap parcel).1 = some fault) := by
  have opening : (Gateway.new secret key trusted).inbound.unwrap parcel =
      Pipeline.run Transform.unwrap
        (.compress :: ((key.map fun held => Transform.encrypt (.receiver held)).toList ++
          [.sign secret])) parcel := by
    cases key <;> rfl
  rw [opening]
  unfold reveal
  cases unpacked : Compression.unpack parcel with
  | error fault =>
    right
    refine ⟨fault, rfl, ?_⟩
    rw [Pipeline.run_cons_error _ unpacked]
  | ok opened =>
    rw [Pipeline.run_cons_ok _ unpacked]
    cases key with
    | none => exact .inl ⟨opened, rfl, rfl⟩
    | some held =>
      cases disclosed : Encryption.disclose (.receiver held) opened with
      | error fault =>
        right
        refine ⟨fault, disclosed, ?_⟩
        exact congrArg Prod.fst (Pipeline.run_cons_error _ disclosed)
      | ok plain =>
        left
        refine ⟨plain, disclosed, ?_⟩
        exact Pipeline.run_cons_ok _ disclosed

/-- A request that passes states no signature, or the digest of the body that it is found to have.
Once its body is plain, it is refused exactly if the signature that it states is no such digest. -/
theorem inbound_matches_signature (secret : Bytes) (filled : secret ≠ [])
    (key : Option Rsa.PrivateKey) (trusted : TrustedSubnet) (parcel : Parcel) :
    (∀ opened, (Gateway.new secret key trusted).inbound.unwrap parcel = (none, opened) →
      ∀ stated, Signature.States parcel.headers stated →
        stated.map Text.Hex.lower = Signature.digest secret opened.body ∧
          stated.length = 64) ∧
    (∀ plain, reveal key parcel = .ok plain →
      ((Gateway.new secret key trusted).inbound.unwrap parcel).2 = plain ∧
      (((Gateway.new secret key trusted).inbound.unwrap parcel).1 = some .unsigned ↔
        ∃ stated, Signature.States parcel.headers stated ∧
          stated.map Text.Hex.lower ≠ Signature.digest secret plain.body) ∧
      (((Gateway.new secret key trusted).inbound.unwrap parcel).1 = none ↔
        ∀ stated, Signature.States parcel.headers stated →
          stated.map Text.Hex.lower = Signature.digest secret plain.body)) := by
  rcases unwrap_cases secret key trusted parcel with
    ⟨plain, revealed, run⟩ | ⟨fault, refused, failed⟩
  · have carried := fun stated => Signature.states_congr stated (values_reveal revealed)
    rcases Signature.check_eq secret filled plain with
      ⟨unsigned, stated, states, differs⟩ | ⟨passed, fits⟩
    · rw [run, Pipeline.run_cons_error _ unsigned]
      have differing := (carried stated).mp states
      refine ⟨?_, ?_⟩
      · rintro opened ⟨⟩
      · intro other also
        cases revealed.symm.trans also
        refine ⟨rfl, ⟨fun _refused => ⟨stated, differing, differs⟩, fun _exists => rfl⟩, ?_⟩
        constructor
        · rintro ⟨⟩
        · intro all
          exact absurd (all stated differing) differs
    · rw [run, Pipeline.run_cons_ok _ passed]
      have fitting : ∀ stated, Signature.States parcel.headers stated →
          stated.map Text.Hex.lower = Signature.digest secret plain.body :=
        fun stated states => fits stated ((carried stated).mpr states)
      refine ⟨?_, ?_⟩
      · rintro opened ⟨⟩ stated states
        have same := fitting stated states
        refine ⟨same, ?_⟩
        rw [← List.length_map (f := Text.Hex.lower), same, Signature.length_digest]
      · intro other also
        cases revealed.symm.trans also
        refine ⟨rfl, ⟨?_, ?_⟩, fun _passed => fitting, fun _all => rfl⟩
        · rintro ⟨⟩
        · rintro ⟨stated, states, differs⟩
          exact absurd (fitting stated states) differs
  · refine ⟨?_, ?_⟩
    · intro opened passed
      rw [passed] at failed
      cases failed
    · intro plain revealed
      cases refused.symm.trans revealed

def claiming (signature : Bytes) : Parcel := ⟨⟨[(HeaderName.signature, signature)]⟩, [1, 2, 3]⟩

theorem inbound_matches_claiming :
    ((Gateway.new [7] none ⟨none⟩).inbound.unwrap
      (claiming (Signature.digest [7] [1, 2, 3]))).1 = none ∧
    ((Gateway.new [7] none ⟨none⟩).inbound.unwrap
      (claiming (Bytes.ofText "c0ffee"))).1 = some .unsigned := by
  have filled : ([7] : Bytes) ≠ [] := by decide
  constructor
  · have matching := inbound_matches_signature [7] filled none ⟨none⟩
      (claiming (Signature.digest [7] [1, 2, 3]))
    refine (matching.2 _ rfl).2.2.mpr ?_
    intro stated states
    have same : Signature.digest [7] [1, 2, 3] = stated := Option.some.inj states.first
    rw [← same, Signature.lower_digest]
    rfl
  · have matching := inbound_matches_signature [7] filled none ⟨none⟩
      (claiming (Bytes.ofText "c0ffee"))
    refine (matching.2 _ rfl).2.1.mpr ⟨Bytes.ofText "c0ffee", ⟨by decide, by decide, by decide⟩, ?_⟩
    intro same
    have length := congrArg List.length same
    rw [Signature.length_digest] at length
    revert length
    decide

end Gateway

end Telemetry
