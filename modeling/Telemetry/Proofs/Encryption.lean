import Telemetry.Parcel.Encryption
import Telemetry.Proofs.Rsa
/-!
Encrypted bodies. The blocks of a cipher are cut apart where they were put together, since each of
them is as long as the modulus; so a key that gives back single blocks gives back whole bodies,
however many chunks they were cut into.
-/

namespace Telemetry.Encryption

open Crypto

/-! ### Chunks -/

theorem chunks_nil (size : Nat) : chunks size [] = [] := by
  rw [chunks, dif_pos (.inr rfl)]

theorem chunks_of_ne_nil {size : Nat} {octets : Bytes} (positive : size ≠ 0)
    (filled : octets ≠ []) :
    chunks size octets = octets.take size :: chunks size (octets.drop size) := by
  rw [chunks, dif_neg]
  rintro (zero | empty)
  · exact positive zero
  · exact filled empty

theorem chunks_append {size : Nat} {chunk : Bytes} (positive : size ≠ 0)
    (whole : chunk.length = size) (rest : Bytes) :
    chunks size (chunk ++ rest) = chunk :: chunks size rest := by
  have filled : chunk ++ rest ≠ [] := by
    intro empty
    have nothing : chunk = [] := (List.append_eq_nil_iff.mp empty).1
    rw [nothing] at whole
    exact positive whole.symm
  subst whole
  rw [chunks_of_ne_nil positive filled, List.take_left, List.drop_left]

theorem flatten_chunks {size : Nat} (positive : size ≠ 0) (octets : Bytes) :
    (chunks size octets).flatten = octets := by
  induction octets using chunks.induct size with
  | case1 octets stop =>
    rcases stop with zero | empty
    · exact absurd zero positive
    · rw [empty, chunks_nil]
      rfl
  | case2 octets go ih =>
    have filled : octets ≠ [] := fun empty => go (.inr empty)
    rw [chunks_of_ne_nil positive filled, List.flatten_cons, ih, List.take_append_drop]

theorem length_le_of_mem_chunks {size : Nat} {octets chunk : Bytes}
    (member : chunk ∈ chunks size octets) : chunk.length ≤ size := by
  induction octets using chunks.induct size with
  | case1 octets stop =>
    rw [chunks, dif_pos stop] at member
    cases member
  | case2 octets go ih =>
    rw [chunks, dif_neg go] at member
    rcases List.mem_cons.mp member with first | later
    · rw [first, List.length_take]
      exact Nat.min_le_left _ _
    · exact ih later

/-! ### Blocks -/

theorem length_encryptChunks (filler : Rsa.Filler) (key : Rsa.PublicKey) (number : Nat)
    (parts : List Bytes) :
    (encryptChunks filler key number parts).length = parts.length * key.size := by
  induction parts generalizing number with
  | nil => simp [encryptChunks]
  | cons part rest ih =>
    rw [encryptChunks, List.length_append, Rsa.length_encryptBlock, ih, List.length_cons,
      Nat.succ_mul]
    omega

variable {key : Rsa.PrivateKey}

theorem decryptBlocks_encryptChunks (inverts : key.Inverts) (filler : Rsa.Filler) (number : Nat)
    (parts : List Bytes) (room : ∀ part ∈ parts, part.length + overhead ≤ key.size) :
    decryptBlocks key (chunks key.size (encryptChunks filler key.publicKey number parts)) =
      .ok parts.flatten := by
  induction parts generalizing number with
  | nil => rw [encryptChunks, chunks_nil]; rfl
  | cons part rest ih =>
    have fits := room part List.mem_cons_self
    have positive : key.size ≠ 0 := by
      unfold overhead at fits
      omega
    have later := ih (number + 1) fun other member => room other (List.mem_cons_of_mem _ member)
    rw [encryptChunks, chunks_append positive (Rsa.length_encryptBlock _ _ _ _), decryptBlocks,
      inverts filler number part fits, later]
    rfl

theorem decrypt_encryptChunks (inverts : key.Inverts) (filler : Rsa.Filler) (number : Nat)
    (parts : List Bytes) (room : ∀ part ∈ parts, part.length + overhead ≤ key.size) :
    decrypt key (encryptChunks filler key.publicKey number parts) = .ok parts.flatten := by
  have whole : (encryptChunks filler key.publicKey number parts).length % key.size = 0 := by
    rw [length_encryptChunks]
    exact Nat.mul_mod_left _ _
  unfold decrypt
  rw [if_pos whole, decryptBlocks_encryptChunks inverts filler number parts room]

theorem decrypt_encrypt (inverts : key.Inverts) (large : overhead < key.size)
    (filler : Rsa.Filler) (plain : Bytes) (filled : plain ≠ []) :
    ∃ cipher, encrypt filler key.publicKey plain = .ok cipher ∧ cipher ≠ [] ∧
      decrypt key cipher = .ok plain := by
  have publicLarge : overhead < key.publicKey.size := large
  have positive : key.publicKey.size - overhead ≠ 0 := by omega
  refine ⟨_, if_neg (Nat.not_le.mpr publicLarge), ?_, ?_⟩
  · intro empty
    have length := length_encryptChunks filler key.publicKey 0
      (chunks (key.publicKey.size - overhead) plain)
    rw [empty, chunks_of_ne_nil positive filled, List.length_cons, Nat.succ_mul,
      List.length_nil] at length
    omega
  · have room : ∀ part ∈ chunks (key.publicKey.size - overhead) plain,
        part.length + overhead ≤ key.size := by
      intro part member
      have short := length_le_of_mem_chunks member
      have sizes : key.size = key.publicKey.size := rfl
      omega
    have read := decrypt_encryptChunks inverts filler 0 _ room
    rw [flatten_chunks positive] at read
    exact read

end Telemetry.Encryption
