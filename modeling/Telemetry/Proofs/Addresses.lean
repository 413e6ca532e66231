import Mathlib.Data.List.TakeWhile
import Telemetry.Parcel.Admission
/-!
What a text that reads as an address looks like: it has digits, points and colons only. Hence it
passes through a header field and through trimming as it is, and a caller with an address in the
trusted subnet is admitted (`TrustedSubnet.check_of_contains`).
-/

namespace Telemetry

namespace Net.Address

/-- The letters of addresses: digits of either radix, points and colons. -/
def isLetter (letter : Char) : Bool := (hexDigit? letter).isSome || letter == '.' || letter == ':'

/-- A reader went on over letters of addresses only. -/
def Passes (text rest : List Char) : Prop :=
  ∃ front, text = front ++ rest ∧ ∀ letter ∈ front, isLetter letter = true

theorem Passes.refl (text : List Char) : Passes text text := ⟨[], rfl, nofun⟩

theorem Passes.trans {text middle rest : List Char} (first : Passes text middle)
    (second : Passes middle rest) : Passes text rest := by
  obtain ⟨front, rfl, frontLetters⟩ := first
  obtain ⟨back, rfl, backLetters⟩ := second
  refine ⟨front ++ back, (List.append_assoc _ _ _).symm, ?_⟩
  intro letter member
  exact (List.mem_append.mp member).elim (frontLetters letter) (backLetters letter)

theorem passes_readLetter? {letter : Char} (legal : isLetter letter = true)
    {text rest : List Char} (read : readLetter? letter text = some rest) : Passes text rest := by
  cases text with
  | nil => cases read
  | cons first others =>
    rw [readLetter?] at read
    split at read
    · rename_i same
      cases read
      exact ⟨[first], rfl, fun other member => by rw [List.mem_singleton.mp member, same, legal]⟩
    · cases read

theorem isLetter_of_digit? {radix : Nat} {letter : Char}
    (digit : (digit? radix letter).isSome = true) : isLetter letter = true := by
  unfold digit? at digit
  unfold isLetter
  cases read : hexDigit? letter with
  | none =>
    rw [read] at digit
    cases digit
  | some value => rfl

theorem passes_readNumber? {radix most limit : Nat} {leadingZeros : Bool} {text rest : List Char}
    {value : Nat} (read : readNumber? radix most limit leadingZeros text = some (value, rest)) :
    Passes text rest := by
  simp only [readNumber?] at read
  split at read
  · cases read
  · split at read
    · cases read
    · split at read
      · cases read
        refine ⟨text.takeWhile fun letter => (digit? radix letter).isSome,
          List.takeWhile_append_dropWhile.symm, ?_⟩
        intro letter member
        have digit : (digit? radix letter).isSome = true :=
          List.mem_takeWhile_imp (p := fun letter => (digit? radix letter).isSome) member
        exact isLetter_of_digit? digit
      · cases read

theorem passes_readDotted? {dialect : Dialect} {text rest : List Char} {value : Nat}
    (read : readDotted? dialect text = some (value, rest)) : Passes text rest := by
  have point : isLetter '.' = true := by decide
  simp only [readDotted?, Option.bind_eq_bind, Option.bind_eq_some_iff, Prod.exists,
    Option.pure_def, Option.some.injEq, Prod.mk.injEq] at read
  obtain ⟨_, first, readFirst, _, afterFirst, _, second, readSecond, _, afterSecond, _, third,
    readThird, _, afterThird, _, fourth, readFourth, _, rfl⟩ := read
  exact (passes_readNumber? readFirst).trans <| (passes_readLetter? point afterFirst).trans <|
    (passes_readNumber? readSecond).trans <| (passes_readLetter? point afterSecond).trans <|
    (passes_readNumber? readThird).trans <| (passes_readLetter? point afterThird).trans <|
    passes_readNumber? readFourth

theorem passes_readGroups (dialect : Dialect) (room : Nat) (isFirst : Bool) (text : List Char) :
    Passes text (readGroups dialect room isFirst text).2.2 := by
  induction room generalizing isFirst text with
  | zero => exact .refl text
  | succ room ih =>
    have started : ∀ begun, (if isFirst then some text else readLetter? ':' text) = some begun →
        Passes text begun := by
      intro begun start
      split at start
      · cases start
        exact .refl text
      · exact passes_readLetter? (by decide) start
    rw [readGroups]
    split
    · rename_i value rest dotted
      split at dotted
      · cases dotted
      · obtain ⟨begun, start, read⟩ := Option.bind_eq_some_iff.mp dotted
        exact (started begun start).trans (passes_readDotted? read)
    · split
      · rename_i group rest number
        obtain ⟨begun, start, read⟩ := Option.bind_eq_some_iff.mp number
        exact (started begun start).trans ((passes_readNumber? read).trans (ih false rest))
      · exact .refl text

theorem passes_readColons? {dialect : Dialect} {text rest : List Char} {bits : BitVec 128}
    (read : readColons? dialect text = some (bits, rest)) : Passes text rest := by
  have colon : isLetter ':' = true := by decide
  have front := passes_readGroups dialect 8 true text
  simp only [readColons?] at read
  split at read
  · cases read
    exact front
  · split at read
    · cases read
    · simp only [Option.bind_eq_bind, Option.bind_eq_some_iff, Option.pure_def,
        Option.some.injEq, Prod.mk.injEq] at read
      obtain ⟨_, first, _, second, _, rfl⟩ := read
      exact front.trans <| (passes_readLetter? colon first).trans <|
        (passes_readLetter? colon second).trans (passes_readGroups dialect _ true _)

theorem passes_read? {dialect : Dialect} {text rest : List Char} {address : Address}
    (read : read? dialect text = some (address, rest)) : Passes text rest := by
  unfold read? at read
  split at read
  · rename_i value after dotted
    cases read
    exact passes_readDotted? dotted
  · obtain ⟨⟨bits, after⟩, colons, same⟩ := Option.map_eq_some_iff.mp read
    cases same
    exact passes_readColons? colons

theorem isLetter_of_ofText? {text : String} {address : Address}
    (read : ofText? text = some address) : ∀ letter ∈ text.toList, isLetter letter = true := by
  unfold ofText? at read
  split at read
  · rename_i found whole
    obtain ⟨front, letters, legal⟩ := passes_read? whole
    rw [List.append_nil] at letters
    rw [letters]
    exact legal
  · cases read

theorem bounds_of_isLetter {letter : Char} (legal : isLetter letter = true) :
    0x20 < letter.toNat ∧ letter.toNat < 0x7F := by
  simp only [isLetter, Bool.or_eq_true, beq_iff_eq] at legal
  rcases legal with (digit | rfl) | rfl
  · simp only [hexDigit?] at digit
    split at digit
    · omega
    · split at digit
      · omega
      · split at digit
        · omega
        · cases digit
  · decide
  · decide

end Net.Address

/-! ### The field that states an address -/

theorem Bytes.ofText_eq_map {text : String}
    (ascii : ∀ letter ∈ text.toList, letter.toNat < 0x80) :
    Bytes.ofText text = text.toList.map fun letter => UInt8.ofNat letter.toNat := by
  have whole := Bytes.ofText_ofList text.toList
  rw [String.ofList_toList] at whole
  rw [whole]
  generalize text.toList = letters at ascii
  induction letters with
  | nil => rfl
  | cons letter rest ih =>
    have small := ascii letter List.mem_cons_self
    have octet : (UInt8.ofNat letter.toNat).toNat = letter.toNat := by
      rw [UInt8.toNat_ofNat']
      omega
    have encoded := Bytes.utf8EncodeChar_ofNat (UInt8.ofNat letter.toNat) (by omega)
    rw [octet, Char.ofNat_toNat] at encoded
    rw [List.flatMap_cons, encoded, List.map_cons,
      ih fun later member => ascii later (List.mem_cons_of_mem _ member)]
    rfl

theorem Headers.visible?_ofText {text : String}
    (printable : ∀ letter ∈ text.toList, 0x20 ≤ letter.toNat ∧ letter.toNat < 0x7F) :
    visible? (Bytes.ofText text) = some text := by
  have octet : ∀ letter ∈ text.toList, (UInt8.ofNat letter.toNat).toNat = letter.toNat := by
    intro letter member
    have bounds := printable letter member
    rw [UInt8.toNat_ofNat']
    omega
  rw [Bytes.ofText_eq_map fun letter member => by
    have bounds := printable letter member
    omega]
  unfold visible?
  rw [if_pos, List.map_map]
  · have back : text.toList.map ((fun octet : UInt8 => Char.ofNat octet.toNat) ∘
        fun letter => UInt8.ofNat letter.toNat) = text.toList.map id := by
      refine List.map_congr_left fun letter member => ?_
      rw [Function.comp_apply, octet letter member, Char.ofNat_toNat, id]
    rw [back, List.map_id, String.ofList_toList]
  · rw [List.all_map, List.all_eq_true]
    intro letter member
    have bounds := printable letter member
    simp only [Function.comp_apply, isVisible, Bool.or_eq_true, Bool.and_eq_true,
      decide_eq_true_eq, UInt8.le_iff_toNat_le, UInt8.lt_iff_toNat_lt, octet letter member]
    exact .inr bounds

theorem Text.trim_eq {text : String}
    (solid : ∀ letter ∈ text.toList, isBlank letter = false) : trim text = text := by
  have kept : ∀ letters : List Char, (∀ letter ∈ letters, isBlank letter = false) →
      letters.dropWhile isBlank = letters := by
    intro letters solid
    cases letters with
    | nil => rfl
    | cons letter rest => rw [List.dropWhile_cons, solid letter List.mem_cons_self]; rfl
  have reversed : ∀ letter ∈ text.toList.reverse, isBlank letter = false :=
    fun letter member => solid letter (List.mem_reverse.mp member)
  rw [trim, kept _ solid, kept _ reversed, List.reverse_reverse, String.ofList_toList]

namespace TrustedSubnet

theorem isBlank_of_isLetter {letter : Char} (legal : Net.Address.isLetter letter = true) :
    Text.isBlank letter = false := by
  have bounds := Net.Address.bounds_of_isLetter legal
  simp only [Text.isBlank, Bool.or_eq_false_iff, Bool.and_eq_false_iff, beq_eq_false_iff_ne,
    decide_eq_false_iff_not]
  omega

theorem stated_eq {headers : Headers} {text : String} {address : Net.Address}
    (first : headers.values HeaderName.realAddress = [Bytes.ofText text])
    (read : Net.Address.ofText? text = some address) : stated headers = text := by
  have letters := Net.Address.isLetter_of_ofText? read
  have printable : ∀ letter ∈ text.toList, 0x20 ≤ letter.toNat ∧ letter.toNat < 0x7F := by
    intro letter member
    have bounds := Net.Address.bounds_of_isLetter (letters letter member)
    omega
  rw [stated, Headers.text?_eq, first, List.head?_cons, Option.bind_some,
    Headers.visible?_ofText printable, Option.getD_some]
  exact Text.trim_eq fun letter member => isBlank_of_isLetter (letters letter member)

theorem check_of_contains {subnet : Net.Subnet} {headers : Headers} {text : String}
    {address : Net.Address} (first : headers.values HeaderName.realAddress = [Bytes.ofText text])
    (read : Net.Address.ofText? text = some address) (inside : subnet.contains address = true) :
    check ⟨some subnet⟩ headers = .ok () := by
  simp only [check, stated_eq first read, read, inside, if_true]

end TrustedSubnet

end Telemetry
