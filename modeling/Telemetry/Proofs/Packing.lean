import Telemetry.Gzip.Basic
/-!
Packing loses nothing. A member is read block by block: a stored block gives back its octets and
leaves what follows it alone, so that, by induction on the blocks that were written, the reader
gets all octets and stops in front of the trailer. `Gzip.gunzip?_gzip` is the result, and all that
is ever used of the encoder outside this module: what holds of packed parcels holds of every encoder
that the reader undoes.
-/

namespace Telemetry.Gzip

namespace Inflate

def storedHeader (last : UInt8) (length : Nat) : Bytes :=
  last :: Bytes.ofNatLE 2 length ++ Bytes.ofNatLE 2 (65535 - length)

theorem stored?_ofNatLE (front rest : Bytes) (output : Array UInt8)
    (short : front.length ≤ 65535) :
    stored? (Bytes.ofNatLE 2 front.length ++
        (Bytes.ofNatLE 2 (65535 - front.length) ++ (front ++ rest))) output =
      some (.ofBytes rest, output ++ front.toArray) := by
  simp only [Bytes.ofNatLE, List.cons_append, List.nil_append, stored?, UInt8.toNat_ofNat']
  have length : front.length % 256 % 2 ^ 8 + 256 * (front.length / 256 % 256 % 2 ^ 8) =
      front.length := by omega
  have turned : (65535 - front.length) % 256 % 2 ^ 8 +
      256 * ((65535 - front.length) / 256 % 256 % 2 ^ 8) = 65535 - front.length := by omega
  rw [length, turned, if_pos (by omega), List.take_left, if_pos rfl, List.drop_left]

theorem blocks_storedHeader (steps budget : Nat) (last : UInt8) (front rest : Bytes)
    (output : Array UInt8) (mark : last = 0 ∨ last = 1) (short : front.length ≤ 65535) :
    blocks (steps + 1) budget (.ofBytes (storedHeader last front.length ++ (front ++ rest)))
        output =
      if last = 1 then some (rest, output ++ front.toArray)
      else blocks steps budget (.ofBytes rest) (output ++ front.toArray) := by
  have block := stored?_ofNatLE front rest output short
  rcases mark with rfl | rfl
  · simp [blocks, storedHeader, BitSource.ofBytes, BitSource.bits?, BitSource.bit?,
      BitSource.aligned, block]
  · simp [blocks, storedHeader, BitSource.ofBytes, BitSource.bits?, BitSource.bit?,
      BitSource.aligned, block]

end Inflate

theorem storedBlocks_succ (steps : Nat) (octets : Bytes) :
    storedBlocks (steps + 1) octets =
      if octets.drop 65535 = [] then
        Inflate.storedHeader 1 (octets.take 65535).length ++ octets.take 65535
      else
        Inflate.storedHeader 0 (octets.take 65535).length ++ octets.take 65535 ++
          storedBlocks steps (octets.drop 65535) := by
  simp only [storedBlocks, Inflate.storedHeader, List.isEmpty_iff]

theorem blocks_after {steps : Nat} {octets : Bytes} (enough : octets.length / 65535 < steps + 1)
    (continued : octets.drop 65535 ≠ []) : (octets.drop 65535).length / 65535 < steps := by
  have longer : 65535 < octets.length := by
    rcases Nat.lt_or_ge 65535 octets.length with above | below
    · exact above
    · exact absurd (List.drop_eq_nil_iff.mpr below) continued
  rw [List.length_drop]
  omega

theorem blocks_storedBlocks (steps budget more : Nat) (octets rest : Bytes)
    (output : Array UInt8) (enough : octets.length / 65535 < steps) :
    Inflate.blocks (steps + more) budget (.ofBytes (storedBlocks steps octets ++ rest)) output =
      some (rest, output ++ octets.toArray) := by
  induction steps generalizing octets output with
  | zero => exact absurd enough (Nat.not_lt_zero _)
  | succ steps ih =>
    have short : (octets.take 65535).length ≤ 65535 := by
      rw [List.length_take]
      exact Nat.min_le_left _ _
    have count : steps + 1 + more = steps + more + 1 := by omega
    rw [storedBlocks_succ, count]
    by_cases done : octets.drop 65535 = []
    · have whole : octets.take 65535 = octets := by
        rw [List.take_of_length_le (List.drop_eq_nil_iff.mp done)]
      rw [if_pos done, List.append_assoc,
        Inflate.blocks_storedHeader _ _ _ _ _ _ (.inr rfl) short, if_pos rfl, whole]
    · have fewer := blocks_after enough done
      rw [if_neg done, List.append_assoc, List.append_assoc,
        Inflate.blocks_storedHeader _ _ _ _ _ _ (.inl rfl) short, if_neg (by decide),
        ih (octets.drop 65535) _ fewer]
      have joined : (octets.take 65535).toArray ++ (octets.drop 65535).toArray =
          octets.toArray := by
        rw [List.append_toArray, List.take_append_drop]
      rw [Array.append_assoc, joined]

theorem length_le_storedBlocks (steps : Nat) (octets : Bytes)
    (enough : octets.length / 65535 < steps) :
    octets.length ≤ (storedBlocks steps octets).length := by
  induction steps generalizing octets with
  | zero => exact absurd enough (Nat.not_lt_zero _)
  | succ steps ih =>
    rw [storedBlocks_succ]
    by_cases done : octets.drop 65535 = []
    · rw [if_pos done, List.take_of_length_le (List.drop_eq_nil_iff.mp done), List.length_append]
      exact Nat.le_add_left _ _
    · rw [if_neg done]
      have parts : octets.length = (octets.take 65535).length + (octets.drop 65535).length := by
        rw [← List.length_append, List.take_append_drop]
      have fewer := blocks_after enough done
      have later := ih (octets.drop 65535) fewer
      simp only [List.length_append]
      omega

theorem inflate?_deflateStored (octets rest : Bytes) :
    inflate? (deflateStored octets ++ rest) = some (octets, rest) := by
  have longer := length_le_storedBlocks (octets.length / 65535 + 1) octets (Nat.lt_succ_self _)
  unfold inflate? deflateStored
  -- There are more steps than blocks, since every octet of the input allows for eight of them.
  obtain ⟨more, steps⟩ : ∃ more, 8 *
      (storedBlocks (octets.length / 65535 + 1) octets ++ rest).length + 1 =
        octets.length / 65535 + 1 + more := by
    refine ⟨8 * (storedBlocks (octets.length / 65535 + 1) octets ++ rest).length -
      octets.length / 65535, ?_⟩
    rw [List.length_append]
    omega
  have read := blocks_storedBlocks (octets.length / 65535 + 1)
    (octets.length / 65535 + 1 + more) more octets rest #[] (Nat.lt_succ_self _)
  simp only [steps, read, Option.map_some]
  simp

theorem skipHeader?_header (rest : Bytes) : skipHeader? (header ++ rest) = some rest := rfl

theorem gunzip?_gzip (octets : Bytes) : gunzip? (gzip octets) = some octets := by
  have trailer : trailerFits octets (Bytes.ofNatLE 4 (Crc32.sum octets).toNat ++
      Bytes.ofNatLE 4 (octets.length % UInt32.size)) = true := by
    unfold trailerFits
    rw [List.take_of_length_le (by simp [Bytes.length_ofNatLE])]
    exact beq_self_eq_true _
  unfold gunzip? gzip
  rw [List.append_assoc, List.append_assoc, skipHeader?_header]
  simp only [Option.bind_eq_bind, Option.bind_some, inflate?_deflateStored, trailer, if_true]

end Telemetry.Gzip
