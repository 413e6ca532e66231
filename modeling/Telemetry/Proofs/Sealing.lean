import Telemetry.Proofs.Encryption
import Telemetry.Proofs.Packing
import Telemetry.Proofs.Signature
import Telemetry.Server.Gateway
/-!
What a sender seals, its receiver opens. Every transform decides for itself, from the body and the
headers that it finds, whether it applies; the lemmas below say for each of them that what it does
is undone on the other side, where the headers may state another length by then
(`Parcel.Restores`). The pipelines put them together.
-/

namespace Telemetry

namespace Parcel

@[simp] theorem body_replaceBody (parcel : Parcel) (body : Bytes) :
    (parcel.replaceBody body).body = body := rfl

@[simp] theorem values_replaceBody (parcel : Parcel) (body : Bytes) (name : String) :
    (parcel.replaceBody body).headers.values name =
      if name = HeaderName.contentLength then [Bytes.ofText (Nat.repr body.length)]
      else parcel.headers.values name :=
  Headers.values_insert _ _ _ _

/-- A parcel is back with its body and its fields. If it was touched on the way, the length it
states is that of the body. -/
structure Restores (touched : Bool) (before after : Parcel) : Prop where
  body : after.body = before.body
  length : after.headers.values HeaderName.contentLength =
    if touched then [Bytes.ofText (Nat.repr before.body.length)]
    else before.headers.values HeaderName.contentLength
  others : ∀ name, name ≠ HeaderName.contentLength →
    after.headers.values name = before.headers.values name

theorem Restores.refl (parcel : Parcel) : Restores false parcel parcel :=
  ⟨rfl, rfl, fun _name _other => rfl⟩

end Parcel

open Parcel

/-! ### Single transforms -/

namespace Compression

def packs (parcel : Parcel) : Bool :=
  isCompressible (parcel.headers.text? HeaderName.contentType)

theorem isPacked_insert (headers : Headers) :
    isPacked (headers.insert HeaderName.contentEncoding (Bytes.ofText encoding)) = true := by
  have seen : (headers.insert HeaderName.contentEncoding (Bytes.ofText encoding)).text?
      HeaderName.contentEncoding = some encoding := by
    rw [Headers.text?_eq, Headers.values_insert, if_pos rfl]
    rfl
  unfold isPacked
  rw [seen]
  rfl

theorem unpack_pack (parcel : Parcel)
    (plain : parcel.headers.values HeaderName.contentEncoding = []) :
    ∃ opened, unpack (pack parcel) = .ok opened ∧ Restores (packs parcel) parcel opened := by
  cases packed : packs parcel with
  | false =>
    have same : pack parcel = parcel := if_neg (by rw [← packs, packed]; decide)
    have whole : isPacked parcel.headers = false := by
      unfold isPacked
      rw [Headers.text?_eq_none plain]
    refine ⟨parcel, ?_, .refl parcel⟩
    rw [same, unpack, whole]
    rfl
  | true =>
    have shorter : pack parcel = _ := if_pos packed
    rw [shorter]
    unfold unpack
    rw [isPacked_insert]
    simp only [if_true, gunzip, body_replaceBody, Gzip.gunzip?_gzip]
    refine ⟨_, rfl, rfl, ?_, ?_⟩
    · rw [Headers.values_remove, values_replaceBody, if_neg (by decide), if_pos rfl, if_pos rfl]
    · intro name other
      rw [Headers.values_remove]
      by_cases coding : name = HeaderName.contentEncoding
      · rw [if_pos coding, coding, plain]
      · simp [coding, other]

theorem values_pack (parcel : Parcel) (name : String) (notLength : name ≠ HeaderName.contentLength)
    (notCoding : name ≠ HeaderName.contentEncoding) :
    (pack parcel).headers.values name = parcel.headers.values name := by
  unfold pack
  split
  · rw [Headers.values_insert, if_neg notCoding, values_replaceBody, if_neg notLength]
  · rfl

theorem values_unpack {parcel opened : Parcel} (unpacked : unpack parcel = .ok opened)
    (name : String) (notLength : name ≠ HeaderName.contentLength)
    (notCoding : name ≠ HeaderName.contentEncoding) :
    opened.headers.values name = parcel.headers.values name := by
  unfold unpack at unpacked
  split at unpacked
  · cases read : gunzip parcel.body with
    | error fault =>
      rw [read] at unpacked
      cases unpacked
    | ok plain =>
      rw [read] at unpacked
      cases unpacked
      rw [Headers.values_remove, if_neg notCoding, values_replaceBody, if_neg notLength]
  · cases unpacked
    rfl

end Compression

namespace Encryption

/-- The receiver gets back what the sender encrypted, also when the stated length changed. -/
theorem disclose_close {key : Crypto.Rsa.PrivateKey} (inverts : key.Inverts)
    (large : overhead < key.size) (filler : Crypto.Rsa.Filler) (parcel : Parcel) :
    ∃ closed, close (.sender key.publicKey filler) parcel = .ok closed ∧
      (∀ name, name ≠ HeaderName.contentLength →
        closed.headers.values name = parcel.headers.values name) ∧
      ∀ touched opened, Restores touched closed opened →
        ∃ plain, disclose (.receiver key) opened = .ok plain ∧
          Restores (touched || !parcel.body.isEmpty) parcel plain := by
  by_cases empty : parcel.body = []
  · refine ⟨parcel, ?_, fun _name _other => rfl, fun touched opened back => ⟨opened, ?_, ?_⟩⟩
    · simp only [close, Keys.sender, empty, List.isEmpty_nil, if_true]
    · simp only [disclose, Keys.receiver, back.body, empty, List.isEmpty_nil, if_true]
    · simpa [empty] using back
  · obtain ⟨cipher, encrypted, filled, decrypted⟩ :=
      decrypt_encrypt inverts large filler parcel.body empty
    refine ⟨parcel.replaceBody cipher, ?_, ?_, ?_⟩
    · simp only [close, Keys.sender, encrypted]
      rw [if_neg (by simpa using empty)]
      rfl
    · intro name other
      rw [values_replaceBody, if_neg other]
    · intro touched opened back
      have body : opened.body = cipher := back.body
      refine ⟨opened.replaceBody parcel.body, ?_, rfl, ?_, ?_⟩
      · simp only [disclose, Keys.receiver, body, decrypted]
        rw [if_neg (by simpa using filled)]
        rfl
      · rw [values_replaceBody, if_pos rfl, if_pos (by simp [empty])]
      · intro name other
        rw [values_replaceBody, if_neg other, back.others name other, values_replaceBody,
          if_neg other]

theorem values_disclose {keys : Keys} {parcel opened : Parcel}
    (disclosed : disclose keys parcel = .ok opened) (name : String)
    (other : name ≠ HeaderName.contentLength) :
    opened.headers.values name = parcel.headers.values name := by
  unfold disclose at disclosed
  split at disclosed
  · cases disclosed
    rfl
  · rename_i key _held
    split at disclosed
    · cases disclosed
      rfl
    · cases read : decrypt key parcel.body with
      | error fault =>
        rw [read] at disclosed
        cases disclosed
      | ok plain =>
        rw [read] at disclosed
        cases disclosed
        rw [values_replaceBody, if_neg other]

end Encryption

namespace Signature

@[simp] theorem body_sign (secret : Bytes) (parcel : Parcel) :
    (sign secret parcel).body = parcel.body := by
  unfold sign
  split <;> rfl

theorem values_sign (secret : Bytes) (parcel : Parcel) (name : String)
    (other : name ≠ HeaderName.signature) :
    (sign secret parcel).headers.values name = parcel.headers.values name := by
  unfold sign
  split
  · rfl
  · rw [Headers.values_insert, if_neg other]

theorem values_sign_signature (secret : Bytes) (parcel : Parcel)
    (unsigned : parcel.headers.values HeaderName.signature = []) :
    (sign secret parcel).headers.values HeaderName.signature =
      if secret ≠ [] ∧ parcel.body ≠ [] then [digest secret parcel.body] else [] := by
  unfold sign
  by_cases idle : (secret.isEmpty || parcel.body.isEmpty) = true
  · rw [if_pos idle, unsigned, if_neg]
    rintro ⟨secretFilled, bodyFilled⟩
    simp only [Bool.or_eq_true, List.isEmpty_iff] at idle
    exact idle.elim secretFilled bodyFilled
  · rw [if_neg idle, Headers.values_insert, if_pos rfl, if_pos]
    simpa using idle

theorem lower_digest (secret body : Bytes) :
    (digest secret body).map Text.Hex.lower = digest secret body :=
  (Text.Hex.decode?_eq_some_iff _ _).mp (Text.Hex.decode?_encode _)

theorem check_sign (secret : Bytes) (parcel : Parcel)
    (unsigned : parcel.headers.values HeaderName.signature = []) {touched : Bool}
    {opened : Parcel} (back : Restores touched (sign secret parcel) opened) :
    check secret opened = .ok opened := by
  have body : opened.body = parcel.body := back.body.trans (body_sign secret parcel)
  have signatures := back.others HeaderName.signature (by decide)
  rw [values_sign_signature secret parcel unsigned] at signatures
  by_cases filled : secret = []
  · rw [check, if_pos (by rw [filled]; rfl)]
  · rcases check_eq secret filled opened with ⟨_refused, stated, states, differs⟩ | ⟨passed, _fits⟩
    · have first := states.first
      rw [signatures] at first
      split at first
      · have same : digest secret parcel.body = stated := Option.some.inj first
        rw [← same, lower_digest, body] at differs
        exact absurd rfl differs
      · cases first
    · exact passed

end Signature

end Telemetry
