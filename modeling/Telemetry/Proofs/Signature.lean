import Telemetry.Parcel.Signature
/-!
Which texts are the signature of a body. Hexadecimal reading is the exact inverse of writing up to
the case of letters (`Text.Hex.decode?_eq_some_iff`), so a signature verifies exactly if, in lower
case, it is the whole digest; prefixes, extensions and texts of odd length are no digest.
-/

namespace Telemetry

/-! ### Hexadecimal letters -/

namespace Text.Hex

def lower (letter : UInt8) : UInt8 :=
  if 65 ≤ letter.toNat ∧ letter.toNat < 91 then letter + 32 else letter

theorem toNat_lower (letter : UInt8) :
    (lower letter).toNat =
      if 65 ≤ letter.toNat ∧ letter.toNat < 91 then letter.toNat + 32 else letter.toNat := by
  unfold lower
  split
  · rename_i upper
    rw [UInt8.toNat_add, show (32 : UInt8).toNat = 32 from rfl]
    omega
  · rfl

theorem toNat_digit (value : Nat) (bound : value < 16) :
    (digit value).toNat = if value < 10 then 48 + value else 87 + value := by
  unfold digit
  split <;> rw [UInt8.toNat_ofNat'] <;> omega

theorem value?_eq_some_iff (letter : UInt8) (value : Nat) :
    value? letter = some value ↔ value < 16 ∧ lower letter = digit value := by
  rw [← UInt8.toNat_inj, toNat_lower]
  unfold value?
  constructor
  · intro read
    have bound : value < 16 := by grind
    refine ⟨bound, ?_⟩
    rw [toNat_digit value bound]
    grind
  · rintro ⟨bound, same⟩
    rw [toNat_digit value bound] at same
    grind

/-- An octet is written by its two halves and by no others. -/
theorem ofNat_eq_iff (octet : UInt8) {first second : Nat} (firstBound : first < 16)
    (secondBound : second < 16) :
    UInt8.ofNat (first * 16 + second) = octet ↔
      first = octet.toNat / 16 ∧ second = octet.toNat % 16 := by
  have bound := octet.toNat_lt
  rw [← UInt8.toNat_inj, UInt8.toNat_ofNat']
  omega

theorem decode?_cons_cons (high low : UInt8) (rest : Bytes) (octet : UInt8) (others : Bytes) :
    decode? (high :: low :: rest) = some (octet :: others) ↔
      lower high = digit (octet.toNat / 16) ∧ lower low = digit (octet.toNat % 16) ∧
        decode? rest = some others := by
  have bound := octet.toNat_lt
  have upper : octet.toNat / 16 < 16 := by omega
  have below : octet.toNat % 16 < 16 := by omega
  rw [decode?]
  constructor
  · intro read
    split at read
    · rename_i first second firstRead secondRead
      obtain ⟨firstBound, firstDigit⟩ := (value?_eq_some_iff high first).mp firstRead
      obtain ⟨secondBound, secondDigit⟩ := (value?_eq_some_iff low second).mp secondRead
      obtain ⟨read, found, same⟩ := Option.map_eq_some_iff.mp read
      obtain ⟨joined, rfl⟩ := List.cons.inj same
      obtain ⟨rfl, rfl⟩ := (ofNat_eq_iff octet firstBound secondBound).mp joined
      exact ⟨firstDigit, secondDigit, found⟩
    · cases read
  · rintro ⟨firstDigit, secondDigit, found⟩
    have firstRead := (value?_eq_some_iff high _).mpr ⟨upper, firstDigit⟩
    have secondRead := (value?_eq_some_iff low _).mpr ⟨below, secondDigit⟩
    have joined := (ofNat_eq_iff octet upper below).mpr ⟨rfl, rfl⟩
    simp only [firstRead, secondRead, found, Option.map_some, joined]

/-- The texts that are read as given octets are their written form, in any case. -/
theorem decode?_eq_some_iff (letters octets : Bytes) :
    decode? letters = some octets ↔ letters.map lower = encode octets := by
  induction octets generalizing letters with
  | nil =>
    match letters with
    | [] => simp [decode?, encode]
    | [_] => simp [decode?, encode]
    | high :: low :: rest =>
      rw [decode?]
      split
      · simp [encode]
      · simp [encode]
  | cons octet others ih =>
    match letters with
    | [] => simp [decode?, encode]
    | [_] => simp [decode?, encode]
    | high :: low :: rest =>
      rw [decode?_cons_cons, ih, encode, List.map_cons, List.map_cons, List.cons.injEq,
        List.cons.injEq]

theorem length_encode (octets : Bytes) : (encode octets).length = 2 * octets.length := by
  induction octets with
  | nil => rfl
  | cons octet rest ih =>
    rw [encode, List.length_cons, List.length_cons, ih, List.length_cons]
    omega

end Text.Hex

namespace Signature

/-- A signature that a parcel states: the first value under the name, which is visible and not
empty. -/
structure States (headers : Headers) (stated : Bytes) : Prop where
  first : (headers.values HeaderName.signature).head? = some stated
  visible : stated.all Headers.isVisible = true
  filled : stated ≠ []

theorem stated?_eq_some_iff (headers : Headers) (stated : Bytes) :
    stated? headers = some stated ↔ States headers stated := by
  unfold stated?
  rw [Headers.text?_eq]
  constructor
  · intro found
    obtain ⟨read, filled⟩ := Option.filter_eq_some_iff.mp found
    obtain ⟨text, seen, written⟩ := Option.map_eq_some_iff.mp read
    obtain ⟨value, first, visible⟩ := Option.bind_eq_some_iff.mp seen
    have same : value = stated := (Headers.ofText_of_visible? visible).symm.trans written
    subst same
    refine ⟨first, ?_, by simpa using filled⟩
    unfold Headers.visible? at visible
    split at visible
    · assumption
    · cases visible
  · rintro ⟨first, visible, filled⟩
    have seen : Headers.visible? stated =
        some (String.ofList (stated.map fun octet => Char.ofNat octet.toNat)) :=
      if_pos visible
    simp only [first, Option.bind_some, seen, Option.map_some, Headers.ofText_of_visible? seen]
    exact Option.filter_eq_some_iff.mpr ⟨rfl, by simpa using filled⟩

theorem states_congr {left right : Headers} (stated : Bytes)
    (same : left.values HeaderName.signature = right.values HeaderName.signature) :
    States left stated ↔ States right stated := by
  constructor
  · rintro ⟨first, visible, filled⟩
    exact ⟨same ▸ first, visible, filled⟩
  · rintro ⟨first, visible, filled⟩
    exact ⟨same ▸ first, visible, filled⟩

theorem length_digest (secret body : Bytes) : (digest secret body).length = 64 := by
  rw [digest, Text.Hex.length_encode, Crypto.length_hmac]

/-- The texts that verify are the digest, in any case. -/
theorem verifies_iff (secret body stated : Bytes) :
    verifies secret body stated = true ↔ stated.map Text.Hex.lower = digest secret body := by
  unfold verifies digest
  rw [beq_iff_eq, Text.Hex.decode?_eq_some_iff]

/-- A check lets a parcel through as it is, unless a signature is stated that is not the digest of
the body. -/
theorem check_eq (secret : Bytes) (filled : secret ≠ []) (parcel : Parcel) :
    (check secret parcel = .error .unsigned ∧
      ∃ stated, States parcel.headers stated ∧
        stated.map Text.Hex.lower ≠ digest secret parcel.body) ∨
    (check secret parcel = .ok parcel ∧
      ∀ stated, States parcel.headers stated →
        stated.map Text.Hex.lower = digest secret parcel.body) := by
  unfold check
  rw [if_neg (by simpa using filled)]
  cases found : stated? parcel.headers with
  | none =>
    right
    refine ⟨rfl, fun stated states => ?_⟩
    rw [(stated?_eq_some_iff _ _).mpr states] at found
    cases found
  | some signature =>
    have states := (stated?_eq_some_iff _ _).mp found
    by_cases fits : verifies secret parcel.body signature = true
    · right
      refine ⟨if_pos fits, fun stated others => ?_⟩
      have same : signature = stated :=
        Option.some.inj (states.first.symm.trans others.first)
      exact same ▸ (verifies_iff _ _ _).mp fits
    · left
      refine ⟨if_neg fits, signature, states, fun same => ?_⟩
      exact fits ((verifies_iff _ _ _).mpr same)

end Signature

end Telemetry
