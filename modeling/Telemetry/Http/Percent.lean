import Telemetry.Text.Hex
/-!
Percent escapes: a percent sign and two hexadecimal digits stand for an octet. A percent sign that
no two digits follow stands for itself.
-/

namespace Telemetry.Http.Percent

/-- The octet that the two digits at the front of a piece stand for. -/
def escape? : Bytes → Option UInt8
  | high :: low :: _ =>
    match Text.Hex.value? high, Text.Hex.value? low with
    | some upper, some lower => some (UInt8.ofNat (upper * 16 + lower))
    | _, _ => none
  | _ => none

def decode : Bytes → Bytes
  | [] => []
  | octet :: rest =>
    match if octet = 0x25 then escape? rest else none with
    | some escaped => escaped :: decode (rest.drop 2)
    | none => octet :: decode rest
termination_by piece => piece.length
decreasing_by all_goals simp only [List.length_drop, List.length_cons]; omega

def text? (piece : String) : Option String := Bytes.text? (decode (Bytes.ofText piece))

/-- The octets that stand for themselves in a header. -/
def isPlain (octet : UInt8) : Bool :=
  0x20 < octet && octet < 0x7F && !((Bytes.ofText "\"#%<>\x60?\x7b\x7d").contains octet)

def digit (value : Nat) : UInt8 :=
  if value < 10 then UInt8.ofNat (48 + value) else UInt8.ofNat (55 + value)

/-- The octets with escapes, in upper case, for those that do not stand for themselves. -/
def encode (octets : Bytes) : Bytes :=
  octets.flatMap fun octet =>
    if isPlain octet then [octet]
    else [0x25, digit (octet.toNat / 16), digit (octet.toNat % 16)]

theorem value?_digit (value : Nat) (bound : value < 16) :
    Text.Hex.value? (digit value) = some value := by
  revert bound
  revert value
  decide

theorem ne_percent_of_isPlain {octet : UInt8} (plain : isPlain octet = true) : octet ≠ 0x25 := by
  rintro rfl
  revert plain
  decide

theorem decode_encode (octets : Bytes) : decode (encode octets) = octets := by
  induction octets with
  | nil => rw [encode, List.flatMap_nil, decode]
  | cons octet rest ih =>
    rw [encode, List.flatMap_cons]
    change decode (_ ++ encode rest) = _
    by_cases plain : isPlain octet = true
    · rw [if_pos plain, List.singleton_append, decode, if_neg (ne_percent_of_isPlain plain)]
      exact congrArg (octet :: ·) ih
    · have bound := octet.toNat_lt
      have joined : UInt8.ofNat (octet.toNat / 16 * 16 + octet.toNat % 16) = octet := by
        rw [Nat.div_add_mod']
        exact UInt8.ofNat_toNat
      have escaped : escape? (digit (octet.toNat / 16) :: digit (octet.toNat % 16) ::
          encode rest) = some octet := by
        simp only [escape?, value?_digit _ (show octet.toNat / 16 < 16 by omega),
          value?_digit _ (show octet.toNat % 16 < 16 by omega), joined]
      rw [if_neg plain, List.cons_append, List.cons_append, List.singleton_append, decode,
        if_pos rfl, escaped]
      exact congrArg (octet :: ·) ih

end Telemetry.Http.Percent
