import Telemetry.Proofs.Envelopes
import Telemetry.Proofs.Messages
/-!
What travels in messages. An envelope and its message have the same four fields, so that no
conversion stands between them. `Envelope.wire_restores` says that envelopes, batches and metrics
are what they were once they have been octets, and that the encodings of two envelopes one after
another are read field by field: as the second one where that writes a field, and as the first one
elsewhere (`Envelope.writtenOver`).
-/

namespace Telemetry.Envelope

open Wire

theorem ofWire?_toWire (envelope : Envelope) (short : envelope.toWire.length < UInt64.size) :
    ofWire? envelope.toWire = some envelope := by
  rw [ofWire?, mergeWire?_toWire 0 blank envelope short, writtenOver_blank]

/-- Fields are written one after another, and read over those before them. -/
theorem ofWire?_append (first second : Envelope)
    (shortFirst : first.toWire.length < UInt64.size)
    (shortSecond : second.toWire.length < UInt64.size) :
    ofWire? (first.toWire ++ second.toWire) = some (second.writtenOver first) := by
  have joined : first.toWire ++ second.toWire = writeFields (first.fields ++ second.fields) :=
    List.flatMap_append.symm
  have legal : ∀ field ∈ first.fields ++ second.fields, field.Legal := by
    intro field member
    rcases List.mem_append.mp member with before | after
    · exact legal_fields shortFirst field before
    · exact legal_fields shortSecond field after
  rw [ofWire?, mergeWire?, joined, fields?_writeFields 0 _ legal, Option.bind_some,
    List.foldlM_append, foldlM_takeField, writtenOver_blank]
  exact foldlM_takeField second first

theorem metric_ofMetric {metric : Metric} (named : metric.name ≠ "")
    (finite : metric.sample.isFinite = true) : (ofMetric metric).metric = .ok metric := by
  apply conveys_ofMetric.taken
  rw [Metric.isAcceptable, finite, Bool.and_true]
  exact bne_iff_ne.mpr named

/-- Encodings whose lengths fit 64 bits, as those of all octets in a memory do, are read as what
they were written for. -/
theorem wire_restores :
    (∀ envelope : Envelope, envelope.toWire.length < UInt64.size →
      ofWire? envelope.toWire = some envelope) ∧
    (∀ envelopes : List Envelope,
      (∀ envelope ∈ envelopes, envelope.toWire.length < UInt64.size) →
        manyOfWire? (manyToWire envelopes) = some envelopes) ∧
    (∀ metric : Metric, metric.name ≠ "" → metric.sample.isFinite = true →
      (ofMetric metric).toWire.length < UInt64.size →
        (ofWire? (ofMetric metric).toWire).map Envelope.metric = some (.ok metric)) ∧
    ∀ first second : Envelope, first.toWire.length < UInt64.size →
      second.toWire.length < UInt64.size →
        ∃ both, ofWire? (first.toWire ++ second.toWire) = some both ∧
          both.name = (if second.name = "" then first.name else second.name) ∧
          both.kind = (if second.kind = "" then first.kind else second.kind) ∧
          both.value = (if second.value.isSome then second.value else first.value) ∧
          both.delta = (if second.delta.isSome then second.delta else first.delta) := by
  refine ⟨ofWire?_toWire, manyOfWire?_manyToWire, ?_, ?_⟩
  · intro metric named finite short
    rw [ofWire?_toWire _ short, Option.map_some, metric_ofMetric named finite]
  · intro first second shortFirst shortSecond
    refine ⟨_, ofWire?_append first second shortFirst shortSecond, rfl, rfl, ?_, ?_⟩
    · cases written : second.value <;> simp [writtenOver, written]
    · cases written : second.delta <;> simp [writtenOver, written]

/-- Its name is empty, its value is no number, and its delta takes ten octets. -/
def oddEnvelope : Envelope := ⟨"", "é", some ⟨0x7ff8000000000001⟩, some (-1)⟩

def resetEnvelope : Envelope := ⟨"Hits", "", none, some 0⟩

theorem wire_restores_oddEnvelope :
    ofWire? oddEnvelope.toWire = some oddEnvelope ∧
    manyOfWire? (manyToWire [oddEnvelope, resetEnvelope]) = some [oddEnvelope, resetEnvelope] ∧
    (ofWire? (ofMetric ⟨"Hits", .counter (-7)⟩).toWire).map Envelope.metric =
      some (.ok ⟨"Hits", .counter (-7)⟩) ∧
    ofWire? (oddEnvelope.toWire ++ resetEnvelope.toWire) =
      some ⟨"Hits", "é", some ⟨0x7ff8000000000001⟩, some 0⟩ := by
  have odd : oddEnvelope.toWire.length < UInt64.size := by decide +kernel
  have reset : resetEnvelope.toWire.length < UInt64.size := by decide +kernel
  have hits : (ofMetric ⟨"Hits", .counter (-7)⟩).toWire.length < UInt64.size := by
    decide +kernel
  obtain ⟨single, many, metrics, append⟩ := wire_restores
  refine ⟨single _ odd, many _ ?_, metrics _ (by decide) rfl hits, ?_⟩
  · intro envelope member
    rcases List.mem_cons.mp member with rfl | later
    · exact odd
    · rw [List.mem_singleton.mp later]
      exact reset
  · obtain ⟨⟨name, kind, value, delta⟩, read, rfl, rfl, rfl, rfl⟩ := append _ _ odd reset
    exact read

end Telemetry.Envelope
