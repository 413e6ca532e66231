import Mathlib.Algebra.Order.Floor.Div
import Telemetry.Parcel.Pipeline
import Telemetry.Proofs.Encryption
/-!
Ciphers cut short and put together. The blocks of a cipher and the chunks of its body have different
sizes, but they are counted alike: the first blocks are the first chunks (`take_encryptChunks`), and
a cipher behind whole blocks is decrypted on its own (`decrypt_append`). `decrypt_by_blocks` puts
this together: how long a cipher is, what every piece of it means, and what becomes of two ciphers
one after another.
-/

namespace Telemetry.Encryption

open Crypto

/-! ### Counting chunks -/

theorem length_chunks {size : Nat} (positive : 0 < size) (octets : Bytes) :
    (chunks size octets).length = octets.length ⌈/⌉ size := by
  rw [Nat.ceilDiv_eq_add_pred_div]
  induction octets using chunks.induct size with
  | case1 octets stop =>
    rcases stop with zero | empty
    · exact absurd zero (Nat.ne_of_gt positive)
    · rw [empty, chunks_nil]
      exact (Nat.div_eq_of_lt (by simp only [List.length_nil]; omega)).symm
  | case2 octets go ih =>
    have filled : octets ≠ [] := fun empty => go (.inr empty)
    have counted : 0 < octets.length := List.length_pos_iff.mpr filled
    rw [chunks_of_ne_nil (Nat.ne_of_gt positive) filled, List.length_cons, ih, List.length_drop]
    by_cases last : octets.length ≤ size
    · have nothingLeft : (octets.length - size + size - 1) / size = 0 :=
        Nat.div_eq_of_lt (by omega)
      have one : (octets.length + size - 1) / size = 1 := by
        rw [show octets.length + size - 1 = octets.length - 1 + size by omega,
          Nat.add_div_right _ positive, Nat.div_eq_of_lt (by omega)]
      rw [nothingLeft, one]
    · rw [show octets.length + size - 1 = octets.length - size + size - 1 + size by omega,
        Nat.add_div_right _ positive]

theorem flatten_take_chunks {size : Nat} (positive : 0 < size) (octets : Bytes) (count : Nat) :
    ((chunks size octets).take count).flatten = octets.take (count * size) := by
  induction octets using chunks.induct size generalizing count with
  | case1 octets stop =>
    rcases stop with zero | empty
    · exact absurd zero (Nat.ne_of_gt positive)
    · rw [empty, chunks_nil, List.take_nil, List.take_nil]
      rfl
  | case2 octets go ih =>
    have filled : octets ≠ [] := fun empty => go (.inr empty)
    rw [chunks_of_ne_nil (Nat.ne_of_gt positive) filled]
    cases count with
    | zero => rw [Nat.zero_mul]; rfl
    | succ count =>
      rw [List.take_succ_cons, List.flatten_cons, ih, Nat.succ_mul, Nat.add_comm _ size,
        List.take_add]

/-- Behind whole chunks, cutting begins anew. -/
theorem chunks_append_of_dvd {size : Nat} (positive : 0 < size) {first : Bytes}
    (whole : size ∣ first.length) (second : Bytes) :
    chunks size (first ++ second) = chunks size first ++ chunks size second := by
  induction first using chunks.induct size with
  | case1 first stop =>
    rcases stop with zero | empty
    · exact absurd zero (Nat.ne_of_gt positive)
    · rw [empty, chunks_nil]
      rfl
  | case2 first go ih =>
    have filled : first ≠ [] := fun empty => go (.inr empty)
    have room : size ≤ first.length := Nat.le_of_dvd (List.length_pos_iff.mpr filled) whole
    have chunk : (first.take size).length = size := by
      rw [List.length_take]
      exact Nat.min_eq_left room
    have rest : size ∣ (first.drop size).length := by
      rw [List.length_drop]
      exact Nat.dvd_sub whole (Nat.dvd_refl size)
    have cut : first ++ second = first.take size ++ (first.drop size ++ second) := by
      rw [← List.append_assoc, List.take_append_drop]
    rw [cut, chunks_append (Nat.ne_of_gt positive) chunk, ih rest,
      chunks_of_ne_nil (Nat.ne_of_gt positive) filled, List.cons_append]

/-! ### Pieces of ciphers -/

theorem take_encryptChunks (filler : Rsa.Filler) (key : Rsa.PublicKey) (number : Nat)
    (parts : List Bytes) (count : Nat) :
    (encryptChunks filler key number parts).take (count * key.size) =
      encryptChunks filler key number (parts.take count) := by
  induction parts generalizing number count with
  | nil => rw [encryptChunks, List.take_nil, List.take_nil, encryptChunks]
  | cons part rest ih =>
    cases count with
    | zero => rw [Nat.zero_mul]; rfl
    | succ count =>
      have block := Rsa.length_encryptBlock filler number key part
      rw [List.take_succ_cons, encryptChunks, encryptChunks, Nat.succ_mul, Nat.add_comm _ key.size,
        ← ih, List.take_append, block, List.take_of_length_le (by omega), Nat.add_sub_cancel_left]

theorem decryptBlocks_append (key : Rsa.PrivateKey) (first second : List Bytes) :
    decryptBlocks key (first ++ second) =
      (decryptBlocks key first).bind fun front => (decryptBlocks key second).map (front ++ ·) := by
  induction first with
  | nil =>
    cases read : decryptBlocks key second with
    | error error => rw [List.nil_append, read]; rfl
    | ok back => rw [List.nil_append, read]; rfl
  | cons block rest ih =>
    rw [List.cons_append, decryptBlocks, decryptBlocks, ih]
    cases Rsa.decryptBlock? key block with
    | none => rfl
    | some plain =>
      cases decryptBlocks key rest with
      | error error => rfl
      | ok front =>
        cases decryptBlocks key second with
        | error error => rfl
        | ok back => simp [Except.bind, Except.map]

theorem decrypt_of_dvd {key : Rsa.PrivateKey} {cipher : Bytes}
    (whole : key.size ∣ cipher.length) :
    decrypt key cipher = decryptBlocks key (chunks key.size cipher) :=
  if_pos (Nat.mod_eq_zero_of_dvd whole)

theorem decrypt_of_not_dvd {key : Rsa.PrivateKey} {cipher : Bytes}
    (broken : ¬ key.size ∣ cipher.length) :
    decrypt key cipher = .error (.notWholeBlocks cipher.length key.size) :=
  if_neg fun whole => broken (Nat.dvd_of_mod_eq_zero whole)

/-- Whatever is wrong with a cipher, it is told as one kind of error. -/
theorem label_of_decrypt {key : Rsa.PrivateKey} {cipher : Bytes} {error : SealError}
    (refused : decrypt key cipher = .error error) : error.label = "Decrypt" := by
  have blocks : ∀ parts : List Bytes, decryptBlocks key parts = .error error →
      error.label = "Decrypt" := by
    intro parts failed
    induction parts with
    | nil => cases failed
    | cons block rest ih =>
      rw [decryptBlocks] at failed
      cases read : Rsa.decryptBlock? key block with
      | none =>
        rw [read] at failed
        cases failed
        rfl
      | some plain =>
        rw [read] at failed
        cases later : decryptBlocks key rest with
        | ok back =>
          rw [later] at failed
          cases failed
        | error fault =>
          rw [later] at failed
          cases failed
          exact ih later
  by_cases whole : key.size ∣ cipher.length
  · rw [decrypt_of_dvd whole] at refused
    exact blocks _ refused
  · rw [decrypt_of_not_dvd whole] at refused
    cases refused
    rfl

/-- Behind whole blocks, both parts are decrypted, or nothing is. -/
theorem decrypt_append {key : Rsa.PrivateKey} (positive : 0 < key.size) {first : Bytes}
    (whole : key.size ∣ first.length) (second plain : Bytes) :
    decrypt key (first ++ second) = .ok plain ↔
      ∃ front back, decrypt key first = .ok front ∧ decrypt key second = .ok back ∧
        plain = front ++ back := by
  have together : key.size ∣ (first ++ second).length ↔ key.size ∣ second.length := by
    rw [List.length_append]
    exact (Nat.dvd_add_iff_right whole).symm
  by_cases rest : key.size ∣ second.length
  · rw [decrypt_of_dvd (together.mpr rest), decrypt_of_dvd whole, decrypt_of_dvd rest,
      chunks_append_of_dvd positive whole, decryptBlocks_append]
    cases decryptBlocks key (chunks key.size first) with
    | error error => simp [Except.bind]
    | ok front =>
      cases decryptBlocks key (chunks key.size second) with
      | error error => simp [Except.bind, Except.map]
      | ok back => simp [Except.bind, Except.map, eq_comm]
  · rw [decrypt_of_not_dvd fun all => rest (together.mp all), decrypt_of_not_dvd rest]
    simp

/-- Of a cipher, whole blocks are the beginning of the body. -/
theorem decrypt_take {key : Rsa.PrivateKey} (inverts : key.Inverts) (large : overhead < key.size)
    (filler : Rsa.Filler) (plain : Bytes) {count : Nat} (whole : key.size ∣ count) :
    decrypt key ((encryptChunks filler key.publicKey 0
        (chunks (key.publicKey.size - overhead) plain)).take count) =
      .ok (plain.take (count / key.size * (key.size - overhead))) := by
  have sizes : key.publicKey.size = key.size := rfl
  have cut : count = count / key.size * key.publicKey.size := (Nat.div_mul_cancel whole).symm
  have room : ∀ part ∈ (chunks (key.size - overhead) plain).take (count / key.size),
      part.length + overhead ≤ key.size := by
    intro part member
    have short := length_le_of_mem_chunks (List.mem_of_mem_take member)
    omega
  conv_lhs => rw [cut]
  rw [take_encryptChunks, sizes, decrypt_encryptChunks inverts filler 0 _ room,
    flatten_take_chunks (by omega)]

/-- Ciphers by their blocks: the length of a cipher, what is in a piece of it, and two ciphers one
after another. A parcel whose body cannot be decrypted stays as it is. -/
theorem decrypt_by_blocks (key : Rsa.PrivateKey) (inverts : key.Inverts)
    (large : overhead < key.size) :
    (∀ filler plain, ∃ cipher, encrypt filler key.publicKey plain = .ok cipher ∧
      cipher.length = plain.length ⌈/⌉ (key.size - overhead) * key.size ∧
      ∀ count ≤ cipher.length,
        (¬ key.size ∣ count → ∃ error, decrypt key (cipher.take count) = .error error ∧
          error.label = "Decrypt") ∧
        (key.size ∣ count → decrypt key (cipher.take count) =
          .ok (plain.take (min plain.length (count / key.size * (key.size - overhead)))))) ∧
    (∀ first second : Bytes, key.size ∣ first.length → ∀ plain,
      (decrypt key (first ++ second) = .ok plain ↔
        ∃ front back, decrypt key first = .ok front ∧ decrypt key second = .ok back ∧
          plain = front ++ back)) ∧
    ∀ parcel error, decrypt key parcel.body = .error error →
      (Pipeline.mk [.encrypt (.receiver key)]).unwrap parcel = (some error, parcel) ∧
        error.label = "Decrypt" := by
  have room : 0 < key.size - overhead := by omega
  refine ⟨?_, ?_, ?_⟩
  · intro filler plain
    refine ⟨_, if_neg (Nat.not_le.mpr large), ?_, ?_⟩
    · rw [length_encryptChunks]
      exact congrArg (· * key.size) (length_chunks room plain)
    · intro count inside
      constructor
      · intro broken
        have length := List.length_take_of_le inside
        refine ⟨_, decrypt_of_not_dvd ?_, rfl⟩
        rwa [length]
      · intro whole
        rw [decrypt_take inverts large filler plain whole, Nat.min_comm, ← List.take_take,
          List.take_length]
  · intro first second whole plain
    exact decrypt_append (by omega) whole second plain
  · intro parcel error refused
    have filled : parcel.body ≠ [] := by
      intro empty
      rw [empty, decrypt_of_dvd (Nat.dvd_zero _), chunks_nil] at refused
      cases refused
    have failed : Transform.unwrap parcel (.encrypt (.receiver key)) = .error error := by
      simp only [Transform.unwrap, disclose, Keys.receiver, refused]
      exact if_neg (by simpa using filled)
    refine ⟨?_, label_of_decrypt refused⟩
    simp only [Pipeline.unwrap, List.reverse_singleton, Pipeline.run, failed]

theorem decrypt_by_blocks_ofMersenne :
    ∃ cipher, encrypt .standard Rsa.PrivateKey.ofMersenne.publicKey [1, 2, 3] = .ok cipher ∧
      cipher.length = 36 ∧
      decrypt Rsa.PrivateKey.ofMersenne (cipher.take 24) = .ok [1, 2] ∧
      (∃ error, decrypt Rsa.PrivateKey.ofMersenne (cipher.take 25) = .error error ∧
        error.label = "Decrypt") ∧
      decrypt Rsa.PrivateKey.ofMersenne (cipher ++ cipher) = .ok [1, 2, 3, 1, 2, 3] := by
  have size : Rsa.PrivateKey.ofMersenne.size = 12 := by decide
  obtain ⟨pieces, both, _kept⟩ := decrypt_by_blocks Rsa.PrivateKey.ofMersenne
    Rsa.PrivateKey.inverts_ofMersenne (by decide)
  obtain ⟨cipher, encrypted, length, taken⟩ := pieces .standard [1, 2, 3]
  rw [size] at length taken both
  have all : cipher.length = 36 := length.trans (by decide)
  have whole : decrypt Rsa.PrivateKey.ofMersenne cipher = .ok [1, 2, 3] := by
    have read := (taken 36 (by omega)).2 (by decide)
    rwa [List.take_of_length_le (by omega)] at read
  refine ⟨cipher, encrypted, all, (taken 24 (by omega)).2 (by decide),
    (taken 25 (by omega)).1 (by decide), ?_⟩
  rw [both cipher cipher (by rw [all]; decide)]
  exact ⟨_, _, whole, whole, rfl⟩

end Telemetry.Encryption
