/-!
Byte strings as lists of octets. Texts and byte strings are exchanged through UTF-8; numbers
are exchanged in either byte order. `Bytes.text?` accepts exactly the well-formed byte strings,
and `Bytes.text?_ofText` says that it reads back every text that was written.
-/

namespace Telemetry

abbrev Bytes := List UInt8

namespace Bytes

/-- The UTF-8 form of a text. -/
def ofText (text : String) : Bytes := text.toByteArray.data.toList

/-- The text a byte string is the UTF-8 form of, if there is one. -/
def text? (bytes : Bytes) : Option String := String.fromUTF8? ⟨bytes.toArray⟩

theorem text?_ofText (text : String) : text? (ofText text) = some text := by
  have same : (⟨(ofText text).toArray⟩ : ByteArray) = text.toByteArray := by
    simp [ofText]
  simp [text?, same, String.fromUTF8?, text.isValidUTF8, String.fromUTF8]

theorem ofText_of_text? {bytes : Bytes} {text : String} (read : text? bytes = some text) :
    ofText text = bytes := by
  unfold text? String.fromUTF8? at read
  split at read
  · cases read
    simp [ofText, String.fromUTF8]
  · cases read

theorem ofText_ofList (letters : List Char) :
    ofText (String.ofList letters) = letters.flatMap String.utf8EncodeChar := by
  simp [ofText, String.ofList, List.utf8Encode]

@[simp] theorem ofText_append (left right : String) :
    ofText (left ++ right) = ofText left ++ ofText right := by
  simp [ofText]

theorem utf8EncodeChar_ofNat (octet : UInt8) (small : octet.toNat < 128) :
    String.utf8EncodeChar (Char.ofNat octet.toNat) = [octet] := by
  have valid : octet.toNat.isValidChar := Or.inl (by omega)
  have value : (Char.ofNat octet.toNat).val.toNat = octet.toNat := by
    rw [Char.ofNat, dif_pos valid]
    rfl
  unfold String.utf8EncodeChar
  rw [value, if_pos (by omega)]
  simp

theorem ofText_ascii (octets : Bytes) (small : ∀ octet ∈ octets, octet.toNat < 128) :
    ofText (String.ofList (octets.map fun octet => Char.ofNat octet.toNat)) = octets := by
  rw [ofText_ofList]
  induction octets with
  | nil => rfl
  | cons octet rest ih =>
    rw [List.map_cons, List.flatMap_cons,
      utf8EncodeChar_ofNat octet (small octet List.mem_cons_self),
      ih fun later member => small later (List.mem_cons_of_mem _ member)]
    rfl

/-- The natural number whose digits to base 256 are the octets, most significant first. -/
def toNatBE (bytes : Bytes) : Nat :=
  bytes.foldl (fun value octet => value * 256 + octet.toNat) 0

/-- The natural number whose digits to base 256 are the octets, least significant first. -/
def toNatLE (bytes : Bytes) : Nat :=
  bytes.foldr (fun octet value => octet.toNat + 256 * value) 0

/-- The lowest `width` digits to base 256, least significant first. -/
def ofNatLE : (width : Nat) → Nat → Bytes
  | 0, _ => []
  | width + 1, value => UInt8.ofNat (value % 256) :: ofNatLE width (value / 256)

/-- The lowest `width` digits to base 256, most significant first. -/
def ofNatBE (width value : Nat) : Bytes := (ofNatLE width value).reverse

theorem length_ofNatLE (width value : Nat) : (ofNatLE width value).length = width := by
  induction width generalizing value with
  | zero => rfl
  | succ width ih => simp [ofNatLE, ih]

theorem length_ofNatBE (width value : Nat) : (ofNatBE width value).length = width := by
  simp [ofNatBE, length_ofNatLE]

theorem toNatLE_lt (octets : Bytes) : toNatLE octets < Nat.pow 256 octets.length := by
  induction octets with
  | nil => decide
  | cons octet rest ih =>
    have bound := octet.toNat_lt
    change octet.toNat + 256 * toNatLE rest < Nat.pow 256 rest.length * 256
    omega

theorem toNatLE_ofNatLE (width value : Nat) (bound : value < Nat.pow 256 width) :
    toNatLE (ofNatLE width value) = value := by
  induction width generalizing value with
  | zero =>
    have zero : value = 0 := by simpa using bound
    rw [zero]
    rfl
  | succ width ih =>
    have higher : value / 256 < Nat.pow 256 width := by
      change value < Nat.pow 256 width * 256 at bound
      omega
    change (UInt8.ofNat (value % 256)).toNat + 256 * toNatLE (ofNatLE width (value / 256)) = value
    rw [ih (value / 256) higher, UInt8.toNat_ofNat']
    omega

theorem ofNatLE_toNatLE (octets : Bytes) : ofNatLE octets.length (toNatLE octets) = octets := by
  induction octets with
  | nil => rfl
  | cons octet rest ih =>
    have bound := octet.toNat_lt
    change ofNatLE (rest.length + 1) (octet.toNat + 256 * toNatLE rest) = octet :: rest
    have low : (octet.toNat + 256 * toNatLE rest) % 256 = octet.toNat := by omega
    have higher : (octet.toNat + 256 * toNatLE rest) / 256 = toNatLE rest := by omega
    rw [ofNatLE, low, higher, ih, UInt8.ofNat_toNat]

theorem toNatBE_eq_toNatLE (octets : Bytes) : toNatBE octets = toNatLE octets.reverse := by
  unfold toNatBE toNatLE
  rw [List.foldr_reverse]
  congr 1
  funext value octet
  rw [Nat.add_comm, Nat.mul_comm]

theorem toNatBE_lt (octets : Bytes) : toNatBE octets < Nat.pow 256 octets.length := by
  rw [toNatBE_eq_toNatLE, ← List.length_reverse]
  exact toNatLE_lt octets.reverse

theorem toNatBE_ofNatBE (width value : Nat) (bound : value < Nat.pow 256 width) :
    toNatBE (ofNatBE width value) = value := by
  rw [toNatBE_eq_toNatLE, ofNatBE, List.reverse_reverse, toNatLE_ofNatLE width value bound]

theorem ofNatBE_toNatBE (octets : Bytes) : ofNatBE octets.length (toNatBE octets) = octets := by
  rw [ofNatBE, toNatBE_eq_toNatLE, ← List.length_reverse, ofNatLE_toNatLE, List.reverse_reverse]

/-- The number of digits to base 256 that `value` needs; zero needs none. -/
def width (value : Nat) : Nat := if value = 0 then 0 else value.log2 / 8 + 1

def ascii (letter : Char) : UInt8 := UInt8.ofNat letter.toNat

end Bytes

end Telemetry
