import Telemetry.Bytes
/-!
Numbers of variable length: seven bits to an octet, the lowest first, the high bit set on every
octet but the last. `readVarint_writeVarint` says that a written number is read back and that
what follows it is left alone.
-/

namespace Telemetry.Wire

def writeVarint (value : Nat) : Bytes :=
  if value < 128 then [UInt8.ofNat value]
  else UInt8.ofNat (128 + value % 128) :: writeVarint (value / 128)
termination_by value
decreasing_by omega

/-- Reads the octets from the one at `place` on. There are at most ten, and of the tenth only
one bit can be used; trailing zeros are allowed. -/
def readVarintFrom (place : Nat) : Bytes → Option (Nat × Bytes)
  | [] => none
  | octet :: rest =>
    let bits := octet.toNat
    if 9 ≤ place ∧ 2 ≤ bits then none
    else if bits < 128 then some (bits, rest)
    else
      (readVarintFrom (place + 1) rest).map fun (higher, after) =>
        (bits % 128 + 128 * higher, after)

def readVarint? (octets : Bytes) : Option (Nat × Bytes) := readVarintFrom 0 octets

theorem readVarintFrom_writeVarint (place value : Nat) (rest : Bytes)
    (placed : place ≤ 9) (bound : value < Nat.pow 2 (64 - 7 * place)) :
    readVarintFrom place (writeVarint value ++ rest) = some (value, rest) := by
  induction value using Nat.strongRecOn generalizing place with
  | ind value induction =>
    rw [writeVarint]
    by_cases small : value < 128
    · rw [if_pos small, List.cons_append, List.nil_append, readVarintFrom]
      have bits : (UInt8.ofNat value).toNat = value := by
        rw [UInt8.toNat_ofNat']; omega
      simp only [bits]
      rw [if_neg, if_pos small]
      rintro ⟨last, large⟩
      have : place = 9 := by omega
      subst this
      simp at bound
      omega
    · rw [if_neg small, List.cons_append, readVarintFrom]
      have bits : (UInt8.ofNat (128 + value % 128)).toNat = 128 + value % 128 := by
        rw [UInt8.toNat_ofNat']; omega
      have early : place < 9 := by
        rcases Nat.lt_or_ge place 9 with below | above
        · exact below
        · have : place = 9 := by omega
          subst this
          simp at bound
          omega
      have reduced : value / 128 < Nat.pow 2 (64 - 7 * (place + 1)) := by
        rw [Nat.pow_eq] at bound ⊢
        rw [Nat.div_lt_iff_lt_mul (by decide)]
        have exponent : 64 - 7 * place = (64 - 7 * (place + 1)) + 7 := by omega
        rw [exponent, Nat.pow_add] at bound
        exact bound
      simp only [bits]
      rw [if_neg (by omega), if_neg (by omega),
        induction (value / 128) (by omega) (place + 1) early reduced]
      simp only [Option.map_some, Option.some.injEq, Prod.mk.injEq, and_true]
      omega

theorem readVarint_writeVarint (value : Nat) (rest : Bytes) (bound : value < UInt64.size) :
    readVarint? (writeVarint value ++ rest) = some (value, rest) :=
  readVarintFrom_writeVarint 0 value rest (by decide) bound

end Telemetry.Wire
