import Telemetry.Proofs.Pipelines
/-!
What pipelines leave alone. Whatever transforms a parcel goes through, in either direction, however
often, and wherever one of them fails, the length that it states stays that of its body, is stated
as soon as a transform has replaced the body, and no field changes but the length, the encoding and
the signature (`Pipeline.after_disciplined`). A transform does one of five things to a parcel
(`Parcel.Moves`), and each of them is within these bounds.
-/

namespace Telemetry

/-- The two directions through a pipeline. -/
inductive Way where
  | wrapping
  | unwrapping
deriving DecidableEq, Repr

namespace Transform

def apply (way : Way) (parcel : Parcel) (transform : Transform) : Except SealError Parcel :=
  match way with
  | .wrapping => transform.wrap parcel
  | .unwrapping => transform.unwrap parcel

/-- Whether a transform replaces the body of a parcel, if it succeeds. -/
def replaces (way : Way) (parcel : Parcel) : Transform → Bool
  | .sign _ => false
  | .encrypt keys =>
    !parcel.body.isEmpty &&
      match way with
      | .wrapping => keys.publicKey.isSome
      | .unwrapping => keys.privateKey.isSome
  | .compress =>
    match way with
    | .wrapping => Compression.packs parcel
    | .unwrapping => Compression.isPacked parcel.headers

end Transform

namespace Pipeline

/-- The transforms in the order in which a parcel goes through them. -/
def inOrder (pipeline : Pipeline) : Way → List Transform
  | .wrapping => pipeline.transforms
  | .unwrapping => pipeline.transforms.reverse

def pass (pipeline : Pipeline) (way : Way) (parcel : Parcel) : Option SealError × Parcel :=
  match way with
  | .wrapping => pipeline.wrap parcel
  | .unwrapping => pipeline.unwrap parcel

/-- A parcel after passes of which each starts with what the one before it left, whether or not that
one failed. -/
def after (pipeline : Pipeline) (ways : List Way) (parcel : Parcel) : Parcel :=
  ways.foldl (fun current way => (pipeline.pass way current).2) parcel

/-- Whether one of the transforms replaces the body before one of them fails. -/
def replacesWithin (way : Way) : List Transform → Parcel → Bool
  | [], _ => false
  | transform :: rest, parcel =>
    match transform.apply way parcel with
    | .ok next => transform.replaces way parcel || replacesWithin way rest next
    | .error _ => false

/-- Whether the body is replaced in one of several passes. -/
def replaces (pipeline : Pipeline) : List Way → Parcel → Bool
  | [], _ => false
  | way :: rest, parcel =>
    replacesWithin way (pipeline.inOrder way) parcel ||
      pipeline.replaces rest (pipeline.pass way parcel).2

end Pipeline

namespace Parcel

/-- The length is not stated, or stated once and right. -/
def InStep (parcel : Parcel) : Prop :=
  parcel.headers.values HeaderName.contentLength = [] ∨
    parcel.headers.values HeaderName.contentLength =
      [Bytes.ofText (Nat.repr parcel.body.length)]

/-- A parcel after changes among which the body was replaced or not. -/
structure Disciplined (replaced : Bool) (before after : Parcel) : Prop where
  stated : replaced = true → after.headers.values HeaderName.contentLength =
    [Bytes.ofText (Nat.repr after.body.length)]
  untouched : replaced = false → after.body = before.body ∧
    after.headers.values HeaderName.contentLength =
      before.headers.values HeaderName.contentLength
  others : ∀ name, name ≠ HeaderName.contentLength → name ≠ HeaderName.contentEncoding →
    name ≠ HeaderName.signature → after.headers.values name = before.headers.values name

/-- Everything that a transform can do to a parcel, and whether it replaces the body. -/
inductive Moves (parcel : Parcel) : Bool → Parcel → Prop
  | kept : Moves parcel false parcel
  | signed (digest : Bytes) :
      Moves parcel false
        { parcel with headers := parcel.headers.insert HeaderName.signature digest }
  | replaced (body : Bytes) : Moves parcel true (parcel.replaceBody body)
  | packed (body encoding : Bytes) :
      Moves parcel true { parcel.replaceBody body with
        headers := (parcel.replaceBody body).headers.insert HeaderName.contentEncoding encoding }
  | unpacked (body : Bytes) :
      Moves parcel true { parcel.replaceBody body with
        headers := (parcel.replaceBody body).headers.remove HeaderName.contentEncoding }

end Parcel

/-! ### Single transforms -/

section Transforms

variable {parcel next : Parcel}

theorem Signature.moves_sign (secret : Bytes) (parcel : Parcel) :
    parcel.Moves false (sign secret parcel) := by
  unfold sign
  split
  · exact .kept
  · exact .signed _

theorem Signature.moves_check {secret : Bytes} (checked : check secret parcel = .ok next) :
    parcel.Moves false next := by
  unfold check at checked
  split at checked
  · cases checked
    exact .kept
  · split at checked
    · cases checked
      exact .kept
    · split at checked
      · cases checked
        exact .kept
      · cases checked

/-- A body that could be worked out takes the place of the old one. -/
theorem Parcel.moves_replaceBody {body : Except SealError Bytes}
    (done : body.map parcel.replaceBody = .ok next) : parcel.Moves true next := by
  cases body with
  | error error => cases done
  | ok body =>
    cases done
    exact .replaced body

theorem Encryption.moves_close {keys : Keys} (closed : close keys parcel = .ok next) :
    parcel.Moves (!parcel.body.isEmpty && keys.publicKey.isSome) next := by
  unfold close at closed
  cases held : keys.publicKey with
  | none =>
    rw [held] at closed
    cases closed
    rw [Option.isSome_none, Bool.and_false]
    exact .kept
  | some key =>
    simp only [held] at closed
    cases empty : parcel.body.isEmpty with
    | true =>
      rw [empty, if_pos rfl] at closed
      cases closed
      exact .kept
    | false =>
      rw [empty, if_neg (by decide)] at closed
      exact Parcel.moves_replaceBody closed

theorem Encryption.moves_disclose {keys : Keys} (disclosed : disclose keys parcel = .ok next) :
    parcel.Moves (!parcel.body.isEmpty && keys.privateKey.isSome) next := by
  unfold disclose at disclosed
  cases held : keys.privateKey with
  | none =>
    rw [held] at disclosed
    cases disclosed
    rw [Option.isSome_none, Bool.and_false]
    exact .kept
  | some key =>
    simp only [held] at disclosed
    cases empty : parcel.body.isEmpty with
    | true =>
      rw [empty, if_pos rfl] at disclosed
      cases disclosed
      exact .kept
    | false =>
      rw [empty, if_neg (by decide)] at disclosed
      exact Parcel.moves_replaceBody disclosed

theorem Compression.moves_pack (parcel : Parcel) :
    parcel.Moves (packs parcel) (pack parcel) := by
  cases packed : packs parcel with
  | false =>
    have same : pack parcel = parcel := if_neg (by rw [← packs, packed]; decide)
    rw [same]
    exact .kept
  | true =>
    have shorter : pack parcel = _ := if_pos packed
    rw [shorter]
    exact .packed _ _

theorem Compression.moves_unpack (unpacked : unpack parcel = .ok next) :
    parcel.Moves (isPacked parcel.headers) next := by
  unfold unpack at unpacked
  cases packed : isPacked parcel.headers with
  | false =>
    rw [packed, if_neg (by decide)] at unpacked
    cases unpacked
    exact .kept
  | true =>
    rw [packed, if_pos rfl] at unpacked
    cases read : gunzip parcel.body with
    | error error =>
      rw [read] at unpacked
      cases unpacked
    | ok plain =>
      rw [read] at unpacked
      cases unpacked
      exact .unpacked plain

/-- What a transform does when it succeeds, in either direction. -/
theorem Transform.moves {way : Way} {transform : Transform}
    (done : transform.apply way parcel = .ok next) :
    parcel.Moves (transform.replaces way parcel) next := by
  cases way with
  | wrapping =>
    cases transform with
    | sign secret =>
      cases done
      exact Signature.moves_sign secret parcel
    | encrypt keys => exact Encryption.moves_close done
    | compress =>
      cases done
      exact Compression.moves_pack parcel
  | unwrapping =>
    cases transform with
    | sign secret => exact Signature.moves_check done
    | encrypt keys => exact Encryption.moves_disclose done
    | compress => exact Compression.moves_unpack done

end Transforms

namespace Parcel

/-! ### Changes within bounds -/

section Changes

variable {first middle last : Parcel} {replaced later : Bool}

theorem Disciplined.refl (parcel : Parcel) : Disciplined false parcel parcel where
  stated := nofun
  untouched := fun _kept => ⟨rfl, rfl⟩
  others := fun _name _length _encoding _signature => rfl

/-- A body that was replaced once stays one whose length is stated. -/
theorem Disciplined.trans (before : Disciplined replaced first middle)
    (after : Disciplined later middle last) : Disciplined (replaced || later) first last where
  stated := by
    intro some
    cases later with
    | true => exact after.stated rfl
    | false =>
      rw [Bool.or_false] at some
      obtain ⟨body, length⟩ := after.untouched rfl
      rw [length, body]
      exact before.stated some
  untouched := by
    intro none
    obtain ⟨kept, still⟩ := Bool.or_eq_false_iff.mp none
    obtain ⟨body, length⟩ := before.untouched kept
    obtain ⟨laterBody, laterLength⟩ := after.untouched still
    exact ⟨laterBody.trans body, laterLength.trans length⟩
  others := by
    intro name notLength notEncoding notSignature
    rw [after.others name notLength notEncoding notSignature,
      before.others name notLength notEncoding notSignature]

theorem Disciplined.inStep (changed : Disciplined replaced first last) (inStep : first.InStep) :
    last.InStep := by
  cases replaced with
  | true => exact .inr (changed.stated rfl)
  | false =>
    obtain ⟨body, length⟩ := changed.untouched rfl
    rw [InStep, length, body]
    exact inStep

theorem Moves.disciplined (moves : first.Moves replaced last) :
    Disciplined replaced first last := by
  cases moves with
  | kept => exact .refl first
  | signed digest =>
    refine ⟨nofun, fun _kept => ⟨rfl, ?_⟩, ?_⟩
    · rw [Headers.values_insert, if_neg (by decide)]
    · intro name _notLength _notEncoding notSignature
      rw [Headers.values_insert, if_neg notSignature]
  | replaced body =>
    refine ⟨fun _some => ?_, nofun, ?_⟩
    · rw [values_replaceBody, if_pos rfl, body_replaceBody]
    · intro name notLength _notEncoding _notSignature
      rw [values_replaceBody, if_neg notLength]
  | packed body encoding =>
    refine ⟨fun _some => ?_, nofun, ?_⟩
    · rw [Headers.values_insert, if_neg (by decide), values_replaceBody, if_pos rfl,
        body_replaceBody]
    · intro name notLength notEncoding _notSignature
      rw [Headers.values_insert, if_neg notEncoding, values_replaceBody, if_neg notLength]
  | unpacked body =>
    refine ⟨fun _some => ?_, nofun, ?_⟩
    · rw [Headers.values_remove, if_neg (by decide), values_replaceBody, if_pos rfl,
        body_replaceBody]
    · intro name notLength notEncoding _notSignature
      rw [Headers.values_remove, if_neg notEncoding, values_replaceBody, if_neg notLength]

end Changes

end Parcel

namespace Pipeline

/-! ### Passes -/

theorem pass_eq (pipeline : Pipeline) (way : Way) (parcel : Parcel) :
    pipeline.pass way parcel =
      run (Transform.apply way) (pipeline.inOrder way) parcel := by
  cases way <;> rfl

/-- A pass that fails leaves the parcel as the transforms before the failure have left it. -/
theorem run_disciplined (way : Way) (transforms : List Transform) (parcel : Parcel) :
    Parcel.Disciplined (replacesWithin way transforms parcel) parcel
      (run (Transform.apply way) transforms parcel).2 := by
  induction transforms generalizing parcel with
  | nil => exact .refl parcel
  | cons transform rest ih =>
    rw [replacesWithin, run]
    cases done : transform.apply way parcel with
    | error error => exact .refl parcel
    | ok next => exact (Transform.moves done).disciplined.trans (ih next)

theorem pass_disciplined (pipeline : Pipeline) (way : Way) (parcel : Parcel) :
    Parcel.Disciplined (replacesWithin way (pipeline.inOrder way) parcel) parcel
      (pipeline.pass way parcel).2 := by
  rw [pass_eq]
  exact run_disciplined way (pipeline.inOrder way) parcel

/-- After any passes, whether or not they failed on their way, the stated length is that of the
body, it is stated if the body was replaced, and all other fields are as they were. -/
theorem after_disciplined (pipeline : Pipeline) (ways : List Way) (parcel : Parcel)
    (inStep : parcel.InStep) :
    (pipeline.after ways parcel).InStep ∧
      parcel.Disciplined (pipeline.replaces ways parcel) (pipeline.after ways parcel) := by
  have changed : parcel.Disciplined (pipeline.replaces ways parcel)
      (pipeline.after ways parcel) := by
    clear inStep
    induction ways generalizing parcel with
    | nil => exact .refl parcel
    | cons way rest ih =>
      exact (pipeline.pass_disciplined way parcel).trans (ih (pipeline.pass way parcel).2)
  exact ⟨changed.inStep inStep, changed⟩

/-- A packed request that is unpacked before its body turns out not to be whole blocks. -/
def halfOpened : Parcel :=
  ⟨⟨[("x-note", [0xff]), (HeaderName.contentEncoding, Bytes.ofText "GZip"), ("x-note", [1])]⟩,
    Gzip.gzip [1, 2, 3]⟩

def opened : Parcel :=
  ⟨⟨[("x-note", [0xff]), ("x-note", [1]), (HeaderName.contentLength, Bytes.ofText "3")]⟩, [1, 2, 3]⟩

def halfOpening : Pipeline := receiver [7] (some Crypto.Rsa.PrivateKey.ofMersenne)

theorem after_disciplined_halfOpened :
    halfOpened.InStep ∧ (halfOpening.pass .unwrapping halfOpened).1 =
        some (.notWholeBlocks 3 Crypto.Rsa.PrivateKey.ofMersenne.size) ∧
      (halfOpening.after [.unwrapping] halfOpened).headers.values HeaderName.contentLength =
        [Bytes.ofText (Nat.repr (halfOpening.after [.unwrapping] halfOpened).body.length)] ∧
      (halfOpening.after [.unwrapping] halfOpened).headers.values "x-note" = [[0xff], [1]] := by
  have inStep : halfOpened.InStep := .inl (by decide)
  obtain ⟨_still, changed⟩ := after_disciplined halfOpening [.unwrapping] halfOpened inStep
  have packed : Compression.isPacked halfOpened.headers = true := by decide
  have read : Compression.gunzip halfOpened.body = .ok [1, 2, 3] := by
    have plain : Gzip.gunzip? halfOpened.body = some [1, 2, 3] := Gzip.gunzip?_gzip [1, 2, 3]
    rw [Compression.gunzip, plain]
  have unpacked : Transform.apply .unwrapping halfOpened .compress = .ok opened := by
    rw [Transform.apply, Transform.unwrap, Compression.unpack, packed, if_pos rfl, read]
    rfl
  have undisclosed : Transform.apply .unwrapping opened (.encrypt (.receiver .ofMersenne)) =
      .error (.notWholeBlocks 3 Crypto.Rsa.PrivateKey.ofMersenne.size) := by decide
  have listed : halfOpening.inOrder .unwrapping =
      [.compress, .encrypt (.receiver .ofMersenne), .sign [7]] := rfl
  have replaced : halfOpening.replaces [.unwrapping] halfOpened = true := by
    rw [replaces, listed, replacesWithin, unpacked, Transform.replaces, packed]
    rfl
  have failed : (halfOpening.pass .unwrapping halfOpened).1 =
      some (.notWholeBlocks 3 Crypto.Rsa.PrivateKey.ofMersenne.size) := by
    rw [pass_eq, listed, run_cons_ok _ unpacked, run_cons_error _ undisclosed]
  refine ⟨inStep, failed, changed.stated replaced, ?_⟩
  rw [changed.others "x-note" (by decide) (by decide) (by decide)]
  decide

end Pipeline

end Telemetry
