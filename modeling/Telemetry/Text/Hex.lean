import Telemetry.Bytes
/-!
Hexadecimal text of byte strings. It is written in lower case and read in either case; a reading
takes every letter in pairs. `decode?_encode` says that what was written is read back.
-/

namespace Telemetry.Text.Hex

def digit (value : Nat) : UInt8 :=
  if value < 10 then UInt8.ofNat (48 + value) else UInt8.ofNat (87 + value)

def value? (letter : UInt8) : Option Nat :=
  let code := letter.toNat
  if 48 ≤ code ∧ code < 58 then some (code - 48)
  else if 97 ≤ code ∧ code < 103 then some (code - 87)
  else if 65 ≤ code ∧ code < 71 then some (code - 55)
  else none

def encode : Bytes → Bytes
  | [] => []
  | octet :: rest => digit (octet.toNat / 16) :: digit (octet.toNat % 16) :: encode rest

def decode? : Bytes → Option Bytes
  | [] => some []
  | [_] => none
  | high :: low :: rest =>
    match value? high, value? low with
    | some first, some second =>
      (decode? rest).map (UInt8.ofNat (first * 16 + second) :: ·)
    | _, _ => none

theorem value?_digit (value : Nat) (bound : value < 16) : value? (digit value) = some value := by
  revert bound
  revert value
  decide

theorem decode?_encode (octets : Bytes) : decode? (encode octets) = some octets := by
  induction octets with
  | nil => rfl
  | cons octet rest induction =>
    have bound := octet.toNat_lt
    have joined : UInt8.ofNat (octet.toNat / 16 * 16 + octet.toNat % 16) = octet := by
      rw [Nat.div_add_mod']
      exact UInt8.ofNat_toNat
    simp [encode, decode?, value?_digit _ (show octet.toNat / 16 < 16 by omega),
      value?_digit _ (show octet.toNat % 16 < 16 by omega), induction, joined]

theorem value?_bounds {letter : UInt8} {value : Nat} (read : value? letter = some value) :
    letter.toNat < 128 ∧ value < 16 := by
  simp only [value?] at read
  split at read
  · cases read
    omega
  · split at read
    · cases read
      omega
    · split at read
      · cases read
        omega
      · cases read

theorem eq_nil_of_decode? {letters : Bytes} (read : decode? letters = some []) : letters = [] := by
  rcases letters with _ | ⟨high, _ | ⟨low, later⟩⟩
  · rfl
  · cases read
  · rw [decode?] at read
    split at read
    · obtain ⟨tail, _decoded, joined⟩ := Option.map_eq_some_iff.mp read
      cases joined
    · cases read

/-- A reading takes two letters for each octet. -/
theorem exists_of_decode?_cons {letters rest : Bytes} {octet : UInt8}
    (read : decode? letters = some (octet :: rest)) :
    ∃ high low later first second, letters = high :: low :: later ∧ value? high = some first ∧
      value? low = some second ∧ octet.toNat = first * 16 + second ∧ decode? later = some rest := by
  rcases letters with _ | ⟨high, _ | ⟨low, later⟩⟩
  · cases read
  · cases read
  · rw [decode?] at read
    split at read
    · rename_i first second readHigh readLow
      obtain ⟨tail, decoded, joined⟩ := Option.map_eq_some_iff.mp read
      cases joined
      have boundHigh := value?_bounds readHigh
      have boundLow := value?_bounds readLow
      refine ⟨high, low, later, first, second, rfl, readHigh, readLow, ?_, decoded⟩
      rw [UInt8.toNat_ofNat']
      omega
    · cases read

theorem small_of_decode? {letters octets : Bytes} (read : decode? letters = some octets) :
    ∀ letter ∈ letters, letter.toNat < 128 := by
  induction octets generalizing letters with
  | nil =>
    rw [eq_nil_of_decode? read]
    exact nofun
  | cons octet rest ih =>
    obtain ⟨high, low, later, first, second, rfl, readHigh, readLow, _value, others⟩ :=
      exists_of_decode?_cons read
    intro letter member
    rcases List.mem_cons.mp member with rfl | member
    · exact (value?_bounds readHigh).1
    · rcases List.mem_cons.mp member with rfl | member
      · exact (value?_bounds readLow).1
      · exact ih others letter member

def text (octets : Bytes) : String :=
  String.ofList ((encode octets).map fun letter => Char.ofNat letter.toNat)

end Telemetry.Text.Hex
