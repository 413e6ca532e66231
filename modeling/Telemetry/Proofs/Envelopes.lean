import Telemetry.Metric.Document
import Telemetry.Proofs.Documents
/-!
Envelopes on their way. As a document an envelope comes back with its name and its kind, with a
value if that is finite, and with its delta (`Envelope.readMany?_writeMany`): what is no number has
no numeral. So a metric that nobody could store is refused behind either framing, and all others
arrive (`Envelope.Conveys`).
-/

namespace Telemetry

/-- The numeral that is written for a number is read as that number. -/
def Binary64.ReadsBack (number : Binary64) : Prop :=
  (Json.Numeral.ofBinary64 number).toBinary64? = some number

/-- A metric that a server takes: it has a name, and a level that is finite. -/
def Metric.isAcceptable (metric : Metric) : Bool := metric.name != "" && metric.sample.isFinite

theorem exists_of_mem_mapM {α β : Type} {items : List α} {results : List β} {step : α → Option β}
    (traversed : items.mapM step = some results) {result : β} (member : result ∈ results) :
    ∃ item ∈ items, step item = some result := by
  induction items generalizing results with
  | nil =>
    cases traversed
    cases member
  | cons item rest ih =>
    rw [List.mapM_cons] at traversed
    obtain ⟨first, done, traversed⟩ := Option.bind_eq_some_iff.mp traversed
    obtain ⟨others, later, traversed⟩ := Option.bind_eq_some_iff.mp traversed
    cases traversed
    rcases List.mem_cons.mp member with rfl | inside
    · exact ⟨item, List.mem_cons_self, done⟩
    · obtain ⟨source, found, made⟩ := ih later inside
      exact ⟨source, List.mem_cons_of_mem _ found, made⟩

namespace Envelope

open Json

/-- An envelope as it comes back from a document. -/
def readBack (envelope : Envelope) : Envelope :=
  { envelope with value := envelope.value.filter Binary64.isFinite }

theorem readBack_eq {envelope : Envelope}
    (finite : ∀ value ∈ envelope.value, value.isFinite = true) : envelope.readBack = envelope := by
  obtain ⟨name, kind, value, delta⟩ := envelope
  cases value with
  | none => rfl
  | some value =>
    have kept : (some value).filter Binary64.isFinite = some value := if_pos (finite value rfl)
    simp only [readBack, kept]

theorem writable_ofBinary64 (number : Binary64) : Writable (Json.ofBinary64 number) := by
  unfold Json.ofBinary64
  split
  · exact Numeral.leads_ofBinary64 number
  · trivial

theorem writable_toJson (envelope : Envelope) : Writable envelope.toJson := by
  obtain ⟨name, kind, value, delta⟩ := envelope
  cases value with
  | none =>
    cases delta with
    | none => exact ⟨rfl, rfl, rfl, rfl, trivial⟩
    | some delta => exact ⟨rfl, rfl, rfl, rfl, rfl, Numeral.leads_ofInt _, trivial⟩
  | some value =>
    have number := writable_ofBinary64 value
    cases delta with
    | none => exact ⟨rfl, rfl, rfl, rfl, rfl, number, trivial⟩
    | some delta => exact ⟨rfl, rfl, rfl, rfl, rfl, number, rfl, Numeral.leads_ofInt _, trivial⟩

theorem writable_manyToJson (envelopes : List Envelope) : Writable (manyToJson envelopes) := by
  change WritableItems (envelopes.map toJson)
  induction envelopes with
  | nil => trivial
  | cons envelope rest ih => exact ⟨writable_toJson envelope, ih⟩

theorem optional_ofBinary64 {value : Binary64} (reads : value.isFinite = true → value.ReadsBack) :
    Json.optional binary64? (some (Json.ofBinary64 value)) =
      some ((some value).filter Binary64.isFinite) := by
  unfold Json.ofBinary64
  by_cases finite : value.isFinite = true
  · have back : value.ReadsBack := reads finite
    unfold Binary64.ReadsBack at back
    simp [finite, Json.optional, binary64?, back, Option.filter]
  · simp [finite, Json.optional, Option.filter]

theorem optional_ofInt64 (value : Int64) :
    Json.optional int64? (some (Json.ofInt64 value)) = some (some value) := by
  simp [Json.ofInt64, Json.optional, int64?, Numeral.toInt64?_ofInt]

theorem ofJson?_toJson (envelope : Envelope)
    (reads : ∀ value ∈ envelope.value, value.isFinite = true → value.ReadsBack) :
    ofJson? envelope.toJson = some envelope.readBack := by
  obtain ⟨name, kind, value, delta⟩ := envelope
  have absent : Json.optional binary64? none = some none := rfl
  have noDelta : Json.optional int64? none = some none := rfl
  cases value with
  | none =>
    cases delta with
    | none => rfl
    | some delta =>
      simp [ofJson?, toJson, ofMembers, record?, member?, required, Json.ofText, Json.text?,
        readBack, absent, optional_ofInt64]
  | some value =>
    have number := optional_ofBinary64 (reads value rfl)
    cases delta with
    | none =>
      simp [ofJson?, toJson, ofMembers, record?, member?, required, Json.ofText, Json.text?,
        readBack, noDelta, number]
    | some delta =>
      simp [ofJson?, toJson, ofMembers, record?, member?, required, Json.ofText, Json.text?,
        readBack, optional_ofInt64, number]

theorem read?_write (envelope : Envelope)
    (reads : ∀ value ∈ envelope.value, value.isFinite = true → value.ReadsBack) :
    read? envelope.write = some envelope.readBack := by
  rw [read?, write, Json.read?_compact _ (writable_toJson envelope), Option.bind_some,
    ofJson?_toJson envelope reads]

theorem readMany?_writeMany (envelopes : List Envelope)
    (reads : ∀ envelope ∈ envelopes, ∀ value ∈ envelope.value,
      value.isFinite = true → value.ReadsBack) :
    readMany? (writeMany envelopes) = some (envelopes.map readBack) := by
  rw [readMany?, writeMany, Json.read?_compact _ (writable_manyToJson envelopes),
    Option.bind_some, manyToJson, manyOfJson?]
  induction envelopes with
  | nil => rfl
  | cons envelope rest ih =>
    have head := ofJson?_toJson envelope (reads envelope List.mem_cons_self)
    have tail := ih fun later member => reads later (List.mem_cons_of_mem _ member)
    rw [List.map_cons, List.mapM_cons, head, tail]
    rfl

theorem length_le_writeText (text : String) :
    (Bytes.ofText text).length ≤ (writeText (some text)).length := by
  have escaped : ∀ octets : Bytes, octets.length ≤ (octets.flatMap escapeOctet).length := by
    intro octets
    induction octets with
    | nil => exact Nat.le_refl 0
    | cons octet rest ih =>
      have written : 1 ≤ (escapeOctet octet).length := by
        simp only [escapeOctet]
        repeat' split
        all_goals simp
      rw [List.flatMap_cons, List.length_append, List.length_cons]
      omega
  have whole := escaped (Bytes.ofText text)
  simp only [writeText, Option.map_some, Option.getD_some, List.length_append, List.length_cons]
  omega

/-- A document is longer than the name in it. -/
theorem length_name_lt_write (envelope : Envelope) :
    (Bytes.ofText envelope.name).length < envelope.write.length := by
  have name := length_le_writeText envelope.name
  have shape : ∃ rest, envelope.write = Bytes.ascii '\x7b' ::
      (Json.writeText (some "id") ++ Bytes.ascii ':' :: Json.writeText (some envelope.name) ++
        Bytes.ascii ',' :: rest) ++ [Bytes.ascii '\x7d'] := ⟨_, rfl⟩
  obtain ⟨rest, shape⟩ := shape
  rw [shape]
  simp only [List.length_append, List.length_cons]
  omega

/-! ### Metrics in envelopes -/

/-- A way of metrics to a server: what can be stored arrives, and nothing else does. -/
structure Conveys (way : Metric → Envelope) : Prop where
  taken : ∀ metric, metric.isAcceptable = true → (way metric).metric = .ok metric
  refused : ∀ metric, metric.isAcceptable = false → ∃ error, (way metric).metric = .error error

theorem ofText_word (kind : Kind) : Kind.ofText kind.word = .ok kind := by
  rw [Kind.ofText, Kind.ofWord?_word]

theorem metric_of_empty {kind : Kind} {envelope : Envelope} (known : envelope.kind = kind.word)
    (empty : envelope.name = "") : envelope.metric = .error (.invalidName "") := by
  simp only [metric, known, ofText_word, bind, Except.bind, empty, if_true]
  rfl

theorem metric_of_sample {kind : Kind} {envelope : Envelope} (known : envelope.kind = kind.word)
    (named : envelope.name ≠ "") :
    envelope.metric = (envelope.sample kind).map fun sample => ⟨envelope.name, sample⟩ := by
  simp only [metric, known, ofText_word, bind, Except.bind, if_neg named]
  cases envelope.sample kind <;> rfl

theorem kind_ofMetric (metric : Metric) : (ofMetric metric).kind = metric.kind.word := by
  obtain ⟨name, sample⟩ := metric
  cases sample <;> rfl

theorem name_ofMetric (metric : Metric) : (ofMetric metric).name = metric.name := by
  obtain ⟨name, sample⟩ := metric
  cases sample <;> rfl

theorem sample_of_value {metric : Metric} {level : Binary64}
    (stated : level ∈ (ofMetric metric).value) : metric.sample = .gauge level := by
  obtain ⟨name, sample⟩ := metric
  cases sample with
  | gauge other =>
    cases stated
    rfl
  | counter total => cases stated

/-- A way conveys metrics if it keeps names and kinds, and the samples that are finite. -/
theorem conveys_of_sample {way : Metric → Envelope}
    (names : ∀ metric, (way metric).name = metric.name)
    (kinds : ∀ metric, (way metric).kind = metric.kind.word)
    (finite : ∀ metric, metric.sample.isFinite = true →
      (way metric).sample metric.kind = .ok metric.sample)
    (others : ∀ metric, metric.sample.isFinite = false →
      ∃ error, (way metric).sample metric.kind = .error error) : Conveys way where
  taken := by
    intro metric acceptable
    simp only [Metric.isAcceptable, Bool.and_eq_true, bne_iff_ne] at acceptable
    rw [metric_of_sample (kinds metric) (by rw [names metric]; exact acceptable.1),
      finite metric acceptable.2, names metric]
    rfl
  refused := by
    intro metric unacceptable
    by_cases empty : metric.name = ""
    · exact ⟨_, metric_of_empty (kinds metric) ((names metric).trans empty)⟩
    · have named : (metric.name != "") = true := bne_iff_ne.mpr empty
      rw [Metric.isAcceptable, named, Bool.true_and] at unacceptable
      obtain ⟨error, refused⟩ := others metric unacceptable
      rw [metric_of_sample (kinds metric) (by rw [names metric]; exact empty), refused]
      exact ⟨error, rfl⟩

theorem conveys_ofMetric : Conveys ofMetric := by
  refine conveys_of_sample name_ofMetric kind_ofMetric ?_ ?_
  · rintro ⟨name, level | total⟩ finite
    · exact if_pos finite
    · rfl
  · rintro ⟨name, level | total⟩ infinite
    · exact ⟨_, if_neg (by rw [show level.isFinite = false from infinite]; decide)⟩
    · cases infinite

theorem conveys_readBack : Conveys fun metric => (ofMetric metric).readBack := by
  refine conveys_of_sample name_ofMetric kind_ofMetric ?_ ?_
  · rintro ⟨name, level | total⟩ finite
    · have kept : (some level).filter Binary64.isFinite = some level := if_pos finite
      simp only [readBack, ofMetric, kept]
      exact if_pos finite
    · rfl
  · rintro ⟨name, level | total⟩ infinite
    · have lost : (some level).filter Binary64.isFinite = none :=
        if_neg (by rw [show level.isFinite = false from infinite]; decide)
      simp only [readBack, ofMetric, lost]
      exact ⟨_, rfl⟩
    · cases infinite

theorem Conveys.metrics_ok {way : Metric → Envelope} (conveys : Conveys way)
    {batch : List Metric} (acceptable : batch.all Metric.isAcceptable = true) :
    metrics (batch.map way) = .ok batch := by
  induction batch with
  | nil => rfl
  | cons metric rest ih =>
    rw [List.all_cons, Bool.and_eq_true] at acceptable
    unfold metrics at ih ⊢
    rw [List.map_cons, List.mapM_cons, conveys.taken metric acceptable.1, ih acceptable.2]
    rfl

theorem Conveys.metrics_error {way : Metric → Envelope} (conveys : Conveys way)
    {batch : List Metric} (unacceptable : batch.all Metric.isAcceptable = false) :
    ∃ error, metrics (batch.map way) = .error error := by
  induction batch with
  | nil => cases unacceptable
  | cons metric rest ih =>
    unfold metrics at ih ⊢
    rw [List.map_cons, List.mapM_cons]
    cases taken : metric.isAcceptable with
    | false =>
      obtain ⟨error, refused⟩ := conveys.refused metric taken
      rw [refused]
      exact ⟨error, rfl⟩
    | true =>
      rw [List.all_cons, taken, Bool.true_and] at unacceptable
      obtain ⟨error, refused⟩ := ih unacceptable
      rw [conveys.taken metric taken, refused]
      exact ⟨error, rfl⟩

end Envelope

theorem Query.read?_write (query : Query) : read? query.write = some query := by
  have writable : Json.Writable query.toJson := ⟨rfl, rfl, rfl, rfl, trivial⟩
  rw [read?, write, Json.read?_compact _ writable]
  rfl

end Telemetry
