import Telemetry.Proofs.Elements
import Telemetry.Proofs.Transparency
/-!
Packing on request. A response that can be packed is packed exactly if some piece of some visible
`Accept-Encoding` value names `gzip` and leaves no gap before its parameters, whatever these say
(`Gateway.packed_iff_named`). What was asked for is another matter: a weight of zero asks for the
contrary, and a gap does not change what is asked for (`Headers.AsksPacked`). Where weights are
not zero and gaps are not left, both are the same.

A response is told to be packed by the encoding that it states, so that it does not matter how the
encoder packs. Only where a handler states an encoding of its own, the statement says less.
-/

namespace Telemetry

variable {σ : Type}

open Text (Names IsTight)

/-! ### What a request says -/

/-- A value that is visible has no blanks but spaces and tabs. -/
theorem Headers.blank_of_visible? {value : Bytes} {text : String}
    (seen : visible? value = some text) :
    ∀ letter ∈ text.toList, Text.isBlank letter = true → letter = ' ' ∨ letter = '\t' := by
  unfold visible? at seen
  split at seen
  · rename_i visible
    cases seen
    intro letter member blank
    rw [String.toList_ofList] at member
    obtain ⟨octet, inside, rfl⟩ := List.mem_map.mp member
    have bounds := List.all_eq_true.mp visible octet inside
    simp only [isVisible, Bool.or_eq_true, beq_iff_eq, Bool.and_eq_true, decide_eq_true_eq,
      UInt8.le_iff_toNat_le, UInt8.lt_iff_toNat_lt] at bounds
    rcases bounds with rfl | ⟨above, below⟩
    · exact .inr rfl
    · left
      have code : (Char.ofNat octet.toNat).toNat = octet.toNat := by
        rw [Char.ofNat, dif_pos (.inl (Nat.lt_trans below (by decide)))]
        rfl
      simp only [Text.isBlank, code, Bool.or_eq_true, Bool.and_eq_true, decide_eq_true_eq,
        beq_iff_eq] at blank
      change 32 ≤ octet.toNat at above
      change octet.toNat < 127 at below
      have space : octet.toNat = 32 := by omega
      rw [space]
  · cases seen

namespace Headers

/-- A piece of a visible `Accept-Encoding` value names `gzip`, with this gap and these
parameters. -/
def Offers (headers : Headers) (gap : List Char) (parameters : Option (List Char)) : Prop :=
  ∃ value ∈ headers.values HeaderName.acceptEncoding, ∃ text, visible? value = some text ∧
    ∃ piece, Text.IsPiece ',' text.toList piece ∧ Names "gzip" piece gap parameters

/-- Some piece names `gzip` and leaves no gap before its parameters. -/
def NamesPacked (headers : Headers) : Prop :=
  ∃ gap parameters, headers.Offers gap parameters ∧ IsTight gap parameters

/-- The parameter `q` with the value zero: `0`, or `0.` and more zeros. -/
def IsZeroWeight (parameter : List Char) : Prop :=
  ∃ front name zeros back, Text.IsGap front ∧ Text.IsGap back ∧ (name = 'q' ∨ name = 'Q') ∧
    (zeros = [] ∨ ∃ digits, zeros = '.' :: digits ∧ ∀ digit ∈ digits, digit = '0') ∧
    parameter = front ++ (name :: '=' :: '0' :: zeros ++ back)

/-- A weight of zero is among the parameters, which semicolons separate. -/
def Refuses (parameters : Option (List Char)) : Prop :=
  ∃ letters ∈ parameters, ∃ parameter, Text.IsPiece ';' letters parameter ∧ IsZeroWeight parameter

/-- A request asks for packed responses if it names `gzip` with a weight that is not zero. -/
def AsksPacked (headers : Headers) : Prop :=
  ∃ gap parameters, headers.Offers gap parameters ∧ ¬ Refuses parameters

def zeroLetters : List Char := [' ', '\t', 'q', 'Q', '=', '0', '.']

theorem IsZeroWeight.letters {parameter : List Char} (zero : IsZeroWeight parameter) :
    ∀ letter ∈ parameter, letter ∈ zeroLetters := by
  obtain ⟨front, name, zeros, back, before, after, named, fraction, rfl⟩ := zero
  intro letter member
  simp only [List.mem_append, List.mem_cons] at member
  rcases member with inside | (rfl | rfl | rfl | inside) | inside
  · rcases before letter inside with rfl | rfl <;> decide
  · rcases named with rfl | rfl <;> decide
  · decide
  · decide
  · rcases fraction with rfl | ⟨digits, rfl, zeros⟩
    · cases inside
    · rcases List.mem_cons.mp inside with rfl | digit
      · decide
      · rw [zeros letter digit]
        decide
  · rcases after letter inside with rfl | rfl <;> decide

/-- A single parameter with any other letter, such as another digit, is no weight of zero. -/
theorem not_refuses_of_mem {parameter : List Char} (single : ';' ∉ parameter) (letter : Char)
    (inside : letter ∈ parameter) (other : letter ∉ zeroLetters) :
    ¬ Refuses (some parameter) := by
  rintro ⟨letters, held, piece, stands, zero⟩
  obtain rfl := Option.some_inj.mp held
  have member := Text.mem_splitOn_of_isPiece stands
  rw [List.splitOn_eq_singleton single, List.mem_singleton] at member
  exact other (zero.letters letter (by rw [member]; exact inside))

/-- The pieces of the visible `Accept-Encoding` values. -/
def pieces (headers : Headers) : List String :=
  ((headers.values HeaderName.acceptEncoding).filterMap visible?).flatMap (Text.split ',')

theorem blank_of_mem_pieces {headers : Headers} {piece : String} (member : piece ∈ headers.pieces) :
    ∀ letter ∈ piece.toList, Text.isBlank letter = true → letter = ' ' ∨ letter = '\t' := by
  obtain ⟨text, visible, stands⟩ := List.mem_flatMap.mp member
  obtain ⟨value, _held, seen⟩ := List.mem_filterMap.mp visible
  exact fun letter inside =>
    blank_of_visible? seen letter ((Text.mem_split_iff.mp stands).mem inside)

theorem offers_iff {headers : Headers} {gap : List Char} {parameters : Option (List Char)} :
    headers.Offers gap parameters ↔
      ∃ piece ∈ headers.pieces, Names "gzip" piece.toList gap parameters := by
  constructor
  · rintro ⟨value, held, text, seen, piece, stands, names⟩
    rw [← String.toList_ofList (l := piece)] at stands names
    refine ⟨String.ofList piece, ?_, names⟩
    exact List.mem_flatMap.mpr
      ⟨text, List.mem_filterMap.mpr ⟨value, held, seen⟩, Text.mem_split_iff.mpr stands⟩
  · rintro ⟨piece, member, names⟩
    obtain ⟨text, visible, stands⟩ := List.mem_flatMap.mp member
    obtain ⟨value, held, seen⟩ := List.mem_filterMap.mp visible
    exact ⟨value, held, text, seen, piece.toList, Text.mem_split_iff.mp stands, names⟩

theorem isName_gzip : Text.IsName "gzip" := by
  have letters : "gzip".toList = ['g', 'z', 'i', 'p'] := rfl
  refine ⟨by decide, ?_, by decide⟩
  intro letter member
  rw [letters] at member
  simp only [List.mem_cons, List.not_mem_nil, or_false] at member
  rcases member with rfl | rfl | rfl | rfl <;> decide

end Headers

theorem Gateway.acceptsPacked_iff (headers : Headers) :
    acceptsPacked headers = true ↔ headers.NamesPacked := by
  have decided : acceptsPacked headers = true ↔
      ∃ piece ∈ headers.pieces, encodingName piece = "gzip" := by
    unfold acceptsPacked
    rw [List.any_eq_true]
    simp only [beq_iff_eq]
    rfl
  rw [decided]
  constructor
  · rintro ⟨piece, member, same⟩
    obtain ⟨gap, parameters, names, tight⟩ :=
      Text.names_of_before_trim (Headers.blank_of_mem_pieces member) same
    exact ⟨gap, parameters, Headers.offers_iff.mpr ⟨piece, member, names⟩, tight⟩
  · rintro ⟨gap, parameters, offers, tight⟩
    obtain ⟨piece, member, names⟩ := Headers.offers_iff.mp offers
    exact ⟨piece, member, Text.before_trim_of_names Headers.isName_gzip names tight⟩

/-- Weights and gaps make no difference where there is no weight of zero and no gap. -/
theorem Gateway.acceptsPacked_iff_asksPacked {headers : Headers}
    (orderly : ∀ gap parameters, headers.Offers gap parameters →
      IsTight gap parameters ∧ ¬ Headers.Refuses parameters) :
    acceptsPacked headers = true ↔ headers.AsksPacked := by
  rw [acceptsPacked_iff]
  constructor
  · rintro ⟨gap, parameters, offers, _tight⟩
    exact ⟨gap, parameters, offers, (orderly gap parameters offers).2⟩
  · rintro ⟨gap, parameters, offers, _weighs⟩
    exact ⟨gap, parameters, offers, (orderly gap parameters offers).1⟩

/-! ### What is sent -/

/-- The response that is sent holds the body in packed form, and says so. -/
structure Http.Response.PackedIn (response sent : Http.Response) : Prop where
  encoding : sent.headers.values HeaderName.contentEncoding = [Bytes.ofText "gzip"]
  body : sent.body = Gzip.gzip response.body

/-- The response that is sent holds the body as it is. -/
structure Http.Response.PlainIn (response sent : Http.Response) : Prop where
  encoding : sent.headers.values HeaderName.contentEncoding =
    response.headers.values HeaderName.contentEncoding
  body : sent.body = response.body

/-- Unless the handler stated an encoding, what is sent is told from its encoding. -/
theorem Http.Response.PlainIn.not_packedIn {response sent : Http.Response}
    (plain : response.PlainIn sent)
    (unencoded : response.headers.contains HeaderName.contentEncoding = false) :
    ¬ response.PackedIn sent := by
  intro packed
  have silent : sent.headers.values HeaderName.contentEncoding = [] :=
    plain.encoding.trans (Headers.values_of_contains unencoded)
  rw [packed.encoding] at silent
  cases silent

namespace Gateway

variable (secret : Bytes) (key : Option Crypto.Rsa.PrivateKey) (trusted : TrustedSubnet)
  {response : Http.Response} {accepts : Bool}

theorem packedIn_sealResponse (document : response.headers.StatesDocument)
    (accepted : accepts = true) :
    response.PackedIn ((Gateway.new secret key trusted).sealResponse accepts response) := by
  have packs := (packs_signedParcel secret response).mpr document
  rw [sealResponse_eq, accepted]
  refine ⟨Compression.values_encoding_pack packs, (Compression.body_pack packs).trans ?_⟩
  exact congrArg Gzip.gzip (Signature.body_sign secret _)

theorem plainIn_sealResponse (response : Http.Response) (declined : ¬ accepts = true) :
    response.PlainIn ((Gateway.new secret key trusted).sealResponse accepts response) := by
  rw [sealResponse_eq, if_neg declined]
  exact ⟨Signature.values_sign secret _ _ (by decide), Signature.body_sign secret _⟩

/-- A response that can be packed is packed for requests that name `gzip` without a gap, whatever
weight they give it, and for no others. Where all that name it do so without a gap and with a weight
that is not zero, it is packed exactly for requests that ask for it. -/
theorem packed_iff_named {request passed : Http.Request}
    (received : (Gateway.new secret key trusted).received? request = some passed)
    {inner : Http.Handler σ} {session after : Session σ}
    (answered : (inner passed).run session = (response, after))
    (document : response.headers.StatesDocument) :
    ∃ sent, ((Gateway.new secret key trusted).admitting .document
        ((Gateway.new secret key trusted).opening .document inner) request).run session =
          (sent, after) ∧
      (request.headers.NamesPacked → response.PackedIn sent) ∧
      (¬ request.headers.NamesPacked → response.PlainIn sent) ∧
      (response.headers.contains HeaderName.contentEncoding = false →
        (response.PackedIn sent ↔ request.headers.NamesPacked) ∧
        (response.PlainIn sent ↔ ¬ request.headers.NamesPacked) ∧
        ((∀ gap parameters, request.headers.Offers gap parameters →
            IsTight gap parameters ∧ ¬ Headers.Refuses parameters) →
          (response.PackedIn sent ↔ request.headers.AsksPacked))) := by
  have named := acceptsPacked_iff request.headers
  have packs := fun names => packedIn_sealResponse secret key trusted document (named.mpr names)
  have leaves := fun silent =>
    plainIn_sealResponse secret key trusted response (silent ∘ named.mp)
  refine ⟨_, admitting_opening_run received .document answered, packs, leaves, ?_⟩
  intro unencoded
  have packed := Iff.intro
    (fun packed => by_contra fun silent => (leaves silent).not_packedIn unencoded packed) packs
  refine ⟨packed, ⟨fun plain names => ?_, leaves⟩, fun orderly => packed.trans ?_⟩
  · exact plain.not_packedIn unencoded (packs names)
  · exact named.symm.trans (acceptsPacked_iff_asksPacked orderly)

theorem packed_iff_named_pageRequest :
    samplePage.headers.contains HeaderName.contentEncoding = false ∧
    (∀ gap parameters, pageRequest.headers.Offers gap parameters →
      IsTight gap parameters ∧ ¬ Headers.Refuses parameters) ∧
    ∃ sent, ((Gateway.new [7] none ⟨none⟩).admitting .document
        ((Gateway.new [7] none ⟨none⟩).opening .document pageHandler) pageRequest).run
          ⟨(), 0, []⟩ = (sent, ⟨(), 0, []⟩) ∧
      samplePage.PackedIn sent ∧ pageRequest.headers.AsksPacked := by
  have received : (Gateway.new [7] none ⟨none⟩).received? pageRequest = some pageRequest := rfl
  have answered : (pageHandler pageRequest).run ⟨(), 0, []⟩ = (samplePage, ⟨(), 0, []⟩) := rfl
  have page : samplePage.headers.StatesDocument :=
    ⟨Http.Response.pageType, by decide, .inr (by decide)⟩
  have pieces : pageRequest.headers.pieces = ["br", " gzip;q=0.5"] := by decide
  have half : Names "gzip" " gzip;q=0.5".toList [] (some "q=0.5".toList) :=
    ⟨Text.isGap_nil, [' '], by simp [Text.IsGap], by decide⟩
  have weighs : ¬ Headers.Refuses (some "q=0.5".toList) :=
    Headers.not_refuses_of_mem (by decide) '5' (by decide) (by decide)
  have orderly : ∀ gap parameters, pageRequest.headers.Offers gap parameters →
      IsTight gap parameters ∧ ¬ Headers.Refuses parameters := by
    intro gap parameters offers
    obtain ⟨piece, member, names⟩ := Headers.offers_iff.mp offers
    rw [pieces] at member
    rcases List.mem_cons.mp member with rfl | last
    · have first : 'g' ∈ "br".toList := names.mem (by decide)
      exact absurd first (by decide)
    · rw [List.mem_singleton.mp last] at names
      obtain ⟨rfl, rfl⟩ := half.unique Headers.isName_gzip names
      exact ⟨.inr rfl, weighs⟩
  have unencoded : samplePage.headers.contains HeaderName.contentEncoding = false := by decide
  obtain ⟨sent, run, packs, _leaves, told⟩ :=
    packed_iff_named [7] none ⟨none⟩ received answered page
  obtain ⟨_packed, _plain, asked⟩ := told unencoded
  have offers : pageRequest.headers.Offers [] (some "q=0.5".toList) := by
    refine Headers.offers_iff.mpr ⟨_, ?_, half⟩
    rw [pieces]
    exact List.mem_cons_of_mem _ List.mem_cons_self
  have isPacked := packs ⟨_, _, offers, .inr rfl⟩
  exact ⟨unencoded, orderly, sent, run, isPacked, (asked orderly).mp isPacked⟩

def pageAsking (accepted : String) : Http.Request :=
  ⟨"GET", ⟨"/", "/"⟩, ⟨[(HeaderName.acceptEncoding, Bytes.ofText accepted)]⟩, []⟩

theorem pageAsking_answered (accepted : String) :
    ((Gateway.new [] none ⟨none⟩).admitting .document
      ((Gateway.new [] none ⟨none⟩).opening .document pageHandler) (pageAsking accepted)).run
        ⟨(), 0, []⟩ =
      ((Gateway.new [] none ⟨none⟩).sealResponse (acceptsPacked (pageAsking accepted).headers)
        samplePage, ⟨(), 0, []⟩) := by
  have received : (Gateway.new [] none ⟨none⟩).received? (pageAsking accepted) =
      some (pageAsking accepted) := rfl
  exact admitting_opening_run received .document rfl

/-- A request that refuses packed responses gets one, and a request that asks for them with a blank
before the semicolon does not. -/
theorem refused_page_packed :
    (¬ (pageAsking "gzip;q=0").headers.AsksPacked ∧
      ∃ sent, ((Gateway.new [] none ⟨none⟩).admitting .document
        ((Gateway.new [] none ⟨none⟩).opening .document pageHandler)
          (pageAsking "gzip;q=0")).run ⟨(), 0, []⟩ = (sent, ⟨(), 0, []⟩) ∧
        samplePage.PackedIn sent) ∧
    (pageAsking "gzip ;q=1").headers.AsksPacked ∧
      ∃ sent, ((Gateway.new [] none ⟨none⟩).admitting .document
        ((Gateway.new [] none ⟨none⟩).opening .document pageHandler)
          (pageAsking "gzip ;q=1")).run ⟨(), 0, []⟩ = (sent, ⟨(), 0, []⟩) ∧
        samplePage.PlainIn sent := by
  have page : samplePage.headers.StatesDocument :=
    ⟨Http.Response.pageType, by decide, .inr (by decide)⟩
  refine ⟨⟨?_, _, pageAsking_answered _, ?_⟩, ?_, _, pageAsking_answered _, ?_⟩
  · rintro ⟨gap, parameters, offers, weighs⟩
    obtain ⟨piece, member, names⟩ := Headers.offers_iff.mp offers
    have pieces : (pageAsking "gzip;q=0").headers.pieces = ["gzip;q=0"] := by decide
    rw [pieces, List.mem_singleton] at member
    rw [member] at names
    have refused : Names "gzip" "gzip;q=0".toList [] (some "q=0".toList) :=
      ⟨Text.isGap_nil, [], Text.isGap_nil, by decide⟩
    obtain ⟨_gap, rfl⟩ := refused.unique Headers.isName_gzip names
    refine weighs ⟨_, rfl, "q=0".toList, Text.isPiece_of_mem_splitOn (by decide), ?_⟩
    exact ⟨[], 'q', [], [], Text.isGap_nil, Text.isGap_nil, .inl rfl, .inl rfl, by decide⟩
  · have accepts : acceptsPacked (pageAsking "gzip;q=0").headers = true := by decide
    exact packedIn_sealResponse [] none ⟨none⟩ page accepts
  · have pieces : (pageAsking "gzip ;q=1").headers.pieces = ["gzip ;q=1"] := by decide
    refine ⟨[' '], some "q=1".toList, Headers.offers_iff.mpr ⟨"gzip ;q=1", ?_, ?_⟩, ?_⟩
    · rw [pieces]
      exact List.mem_singleton_self _
    · exact ⟨by simp [Text.IsGap], [], Text.isGap_nil, by decide⟩
    · exact Headers.not_refuses_of_mem (by decide) '1' (by decide) (by decide)
  · have accepts : acceptsPacked (pageAsking "gzip ;q=1").headers = false := by decide
    exact plainIn_sealResponse [] none ⟨none⟩ samplePage (by rw [accepts]; decide)

end Gateway

end Telemetry
