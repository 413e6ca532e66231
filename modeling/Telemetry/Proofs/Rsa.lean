import Mathlib.FieldTheory.Finite.Basic
import Mathlib.NumberTheory.LucasLehmer
import Telemetry.Crypto.Rsa
/-!
Decryption of blocks. `PrivateKey.Inverts` says of a key that it gives back every message whose
block was encrypted with its public half, whatever filled up the block. Keys that are made of two
different primes have this property (`PrivateKey.inverts_of_primes`): modulo each prime the two
exponents together take every number back to itself, and a padded message is smaller than the
modulus.
-/

namespace Telemetry.Crypto.Rsa

/-- Every message with room for its padding comes back. -/
def PrivateKey.Inverts (key : PrivateKey) : Prop :=
  ∀ (filler : Filler) (number : Nat) (message : Bytes), message.length + 11 ≤ key.size →
    decryptBlock? key (encryptBlock filler number key.publicKey message) = some message

/-! ### Powers -/

theorem powerMod_eq (base exponent modulus : Nat) :
    powerMod base exponent modulus = base ^ exponent % modulus := by
  induction exponent using Nat.strongRecOn generalizing base with
  | ind exponent ih =>
    rw [powerMod]
    by_cases done : exponent = 0
    · rw [dif_pos done, done, Nat.pow_zero]
    · have smaller := Nat.div_lt_self (Nat.pos_of_ne_zero done) (by decide : 1 < 2)
      have squares : (base * base % modulus) ^ (exponent / 2) % modulus =
          base ^ (2 * (exponent / 2)) % modulus := by
        rw [← Nat.pow_mod, ← Nat.pow_two, ← Nat.pow_mul]
      simp only [dif_neg done, ih (exponent / 2) smaller, squares]
      by_cases odd : exponent % 2 = 1
      · rw [if_pos odd, Nat.mod_mul_mod, ← Nat.pow_succ]
        congr 2
        omega
      · rw [if_neg odd]
        congr 2
        omega

/-- Modulo a prime, an exponent that is one modulo the prime less one changes nothing. -/
theorem pow_modEq_self (prime exponent number : Nat) (isPrime : prime.Prime)
    (inverse : exponent % (prime - 1) = 1) : number ^ exponent ≡ number [MOD prime] := by
  have : Fact prime.Prime := ⟨isPrime⟩
  rw [← ZMod.natCast_eq_natCast_iff, Nat.cast_pow]
  by_cases zero : (number : ZMod prime) = 0
  · have positive : exponent ≠ 0 := by
      rintro rfl
      rw [Nat.zero_mod] at inverse
      cases inverse
    rw [zero, zero_pow positive]
  · have parts : exponent = (prime - 1) * (exponent / (prime - 1)) + 1 := by
      have whole := Nat.div_add_mod exponent (prime - 1)
      rw [inverse] at whole
      exact whole.symm
    rw [parts, pow_succ, pow_mul, ZMod.pow_card_sub_one_eq_one zero, one_pow, one_mul]

/-! ### Blocks -/

theorem lt_pow_width (value : Nat) : value < 256 ^ Bytes.width value := by
  unfold Bytes.width
  by_cases zero : value = 0
  · rw [if_pos zero, zero]
    decide
  · rw [if_neg zero]
    calc value < 2 ^ (value.log2 + 1) := Nat.lt_log2_self
      _ ≤ 2 ^ (8 * (value.log2 / 8 + 1)) := Nat.pow_le_pow_right (by decide) (by omega)
      _ = 256 ^ (value.log2 / 8 + 1) := by rw [Nat.pow_mul]

theorem pow_width_le (value : Nat) (positive : value ≠ 0) :
    256 ^ (Bytes.width value - 1) ≤ value := by
  unfold Bytes.width
  rw [if_neg positive, Nat.add_sub_cancel]
  calc 256 ^ (value.log2 / 8) = 2 ^ (8 * (value.log2 / 8)) := by rw [Nat.pow_mul]
    _ ≤ 2 ^ value.log2 := Nat.pow_le_pow_right (by decide) (by omega)
    _ ≤ value := Nat.log2_self_le positive

theorem length_pad (filler : Filler) (number size : Nat) (message : Bytes)
    (room : message.length + 11 ≤ size) : (pad filler number size message).length = size := by
  simp only [pad, Filler.take, List.cons_append, List.length_cons, List.length_append,
    List.length_map, List.length_range]
  omega

/-- A block begins with a zero, so that its number is smaller than the modulus. -/
theorem toNatBE_pad_lt (filler : Filler) (number : Nat) (key : PublicKey) (message : Bytes)
    (room : message.length + 11 ≤ key.size) :
    Bytes.toNatBE (pad filler number key.size message) < key.modulus := by
  have positive : key.modulus ≠ 0 := by
    intro zero
    have : key.size = 0 := by simp [PublicKey.size, Bytes.width, zero]
    omega
  have length := length_pad filler number key.size message room
  calc Bytes.toNatBE (pad filler number key.size message)
      = Bytes.toNatBE (pad filler number key.size message).tail := rfl
    _ < 256 ^ (pad filler number key.size message).tail.length := Bytes.toNatBE_lt _
    _ = 256 ^ (key.size - 1) := by rw [List.length_tail, length]
    _ ≤ key.modulus := pow_width_le key.modulus positive

theorem length_encryptBlock (filler : Filler) (number : Nat) (key : PublicKey) (message : Bytes) :
    (encryptBlock filler number key message).length = key.size :=
  Bytes.length_ofNatBE _ _

theorem PrivateKey.inverts_of_pow (key : PrivateKey)
    (undone : ∀ value < key.publicKey.modulus,
      (value ^ key.publicKey.exponent % key.publicKey.modulus) ^ key.exponent %
        key.publicKey.modulus = value) : key.Inverts := by
  intro filler number message room
  have small := toNatBE_pad_lt filler number key.publicKey message room
  have positive : 0 < key.publicKey.modulus := Nat.lt_of_le_of_lt (Nat.zero_le _) small
  have reduced : Bytes.toNatBE (pad filler number key.publicKey.size message) ^
      key.publicKey.exponent % key.publicKey.modulus < key.publicKey.modulus :=
    Nat.mod_lt _ positive
  have fits : Bytes.toNatBE (pad filler number key.publicKey.size message) ^
      key.publicKey.exponent % key.publicKey.modulus < 256 ^ key.publicKey.size :=
    Nat.lt_trans reduced (lt_pow_width key.publicKey.modulus)
  unfold decryptBlock? encryptBlock
  simp only [powerMod_eq, Bytes.toNatBE_ofNatBE _ _ fits, if_neg (Nat.not_le.mpr reduced),
    undone _ small]
  have whole := Bytes.ofNatBE_toNatBE (pad filler number key.publicKey.size message)
  rw [length_pad filler number key.publicKey.size message room] at whole
  rw [PrivateKey.size, whole]
  exact unpad?_pad filler number key.publicKey.size message room

/-- A key of two different primes gives back what was encrypted. -/
theorem PrivateKey.inverts_of_primes (key : PrivateKey) (first second : Nat)
    (firstPrime : first.Prime) (secondPrime : second.Prime) (different : first ≠ second)
    (sound : key.isSound first second = true) : key.Inverts := by
  simp only [PrivateKey.isSound, Bool.and_eq_true, decide_eq_true_eq, beq_iff_eq] at sound
  obtain ⟨⟨⟨_public, product⟩, _firstLarge, firstInverse⟩, _secondLarge, secondInverse⟩ := sound
  apply key.inverts_of_pow
  intro value small
  have modFirst := pow_modEq_self first _ value firstPrime firstInverse
  have modSecond := pow_modEq_self second _ value secondPrime secondInverse
  have coprime : Nat.Coprime first second :=
    (Nat.coprime_primes firstPrime secondPrime).mpr different
  have whole := (Nat.modEq_and_modEq_iff_modEq_mul coprime).mp ⟨modFirst, modSecond⟩
  rw [product] at whole
  rw [← Nat.pow_mod, ← Nat.pow_mul, whole, Nat.mod_eq_of_lt small]

/-- The key of two Mersenne primes, with the smallest blocks that have room for a message. -/
def PrivateKey.ofMersenne : PrivateKey where
  publicKey := ⟨4951760154835678088235319297, 65537⟩
  exponent := 1690970304802162823

theorem PrivateKey.inverts_ofMersenne : ofMersenne.Inverts := by
  apply ofMersenne.inverts_of_primes (mersenne 61) (mersenne 31)
  · exact lucas_lehmer_sufficiency 61 (by norm_num) (by norm_num)
  · exact lucas_lehmer_sufficiency 31 (by norm_num) (by norm_num)
  · decide
  · decide +kernel

end Telemetry.Crypto.Rsa
