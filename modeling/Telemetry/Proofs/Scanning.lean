import Mathlib.Tactic.IntervalCases
import Telemetry.Proofs.Grammar
/-!
What the scanner makes of the tokens of the grammar: `spells_numeral` and `closes_text`. After a
numeral the scanner does not know yet that it is at its end, but whatever cannot continue a numeral
is then read as if it did (`Scanner.Holds`). Hence tokens can be put one after another
(`Spells.append`), with blanks between them.
-/

namespace Telemetry.Json

namespace Scanner

/-- The scanner has read the tokens, the last first, and nothing more; the last of them may be a
numeral that could go on. -/
inductive Holds : Scanner → List Token → Prop where
  | between (tokens : List Token) : Holds ⟨.nothing, tokens⟩ tokens
  | numeral (tokens : List Token) {draft : Draft} {numeral : Numeral}
      (ends : draft.finish? = some numeral) :
      Holds ⟨.numeral draft, tokens⟩ (.number numeral :: tokens)

/-- An octet that cannot belong to a numeral. -/
def isDelimiter (octet : UInt8) : Bool :=
  (Numeral.digitOfOctet? octet).isNone &&
    !((['.', 'e', 'E', '+', '-'].map Bytes.ascii).contains octet)

theorem push?_delimiter (draft : Draft) {octet : UInt8} (delimiter : isDelimiter octet = true) :
    draft.push? octet = none := by
  simp only [isDelimiter, Bool.and_eq_true, Option.isNone_iff_eq_none, Bool.not_eq_true',
    List.map_cons, List.map_nil, List.contains_cons, List.contains_nil, Bool.or_false,
    Bool.or_eq_false_iff, beq_eq_false_iff_ne] at delimiter
  obtain ⟨noDigit, noPoint, noMark, noLargeMark, noPlus, noMinus⟩ := delimiter
  simp [Draft.push?, noDigit, noPoint, noMark, noLargeMark, noPlus, noMinus]

theorem Holds.step_delimiter {scanner : Scanner} {tokens : List Token}
    (holds : scanner.Holds tokens) {octet : UInt8} (delimiter : isDelimiter octet = true) :
    scanner.step octet = step ⟨.nothing, tokens⟩ octet := by
  cases holds with
  | between tokens => rfl
  | numeral tokens ends =>
    simp only [step, push?_delimiter _ delimiter, ends]

theorem Holds.finish? {scanner : Scanner} {tokens : List Token}
    (holds : scanner.Holds tokens) : scanner.finish? = some tokens.reverse := by
  cases holds with
  | between tokens => rfl
  | numeral tokens ends =>
    simp only [Scanner.finish?, ends]
    rfl

end Scanner

open Scanner

theorem scanFrom_cons {scanner next : Scanner} {octet : UInt8} (rest : Bytes)
    (read : scanner.step octet = some next) :
    scanFrom scanner (octet :: rest) = scanFrom next rest := by
  rw [scanFrom, List.foldlM_cons, read]
  rfl

theorem scanFrom_append {scanner next : Scanner} {front : Bytes} (rest : Bytes)
    (read : scanFrom scanner front = some next) :
    scanFrom scanner (front ++ rest) = scanFrom next rest := by
  rw [scanFrom] at read ⊢
  rw [List.foldlM_append, read]
  rfl

/-- The octets are the tokens and leave the scanner outside of all tokens. -/
def Closes (octets : Bytes) (tokens : List Token) : Prop :=
  ∀ before, scanFrom ⟨.nothing, before⟩ octets = some ⟨.nothing, tokens.reverse ++ before⟩

/-- The octets are the tokens, the last of which may be a numeral that could go on. -/
def Spells (octets : Bytes) (tokens : List Token) : Prop :=
  ∀ before, ∃ after, scanFrom ⟨.nothing, before⟩ octets = some after ∧
    after.Holds (tokens.reverse ++ before)

theorem Closes.spells {octets : Bytes} {tokens : List Token} (closes : Closes octets tokens) :
    Spells octets tokens :=
  fun before => ⟨_, closes before, .between _⟩

theorem Closes.append {front back : Bytes} {first second : List Token}
    (closes : Closes front first) (then_ : Closes back second) :
    Closes (front ++ back) (first ++ second) := by
  intro before
  rw [scanFrom_append back (closes before), then_, List.reverse_append, List.append_assoc]

theorem Closes.append_spells {front back : Bytes} {first second : List Token}
    (closes : Closes front first) (spells : Spells back second) :
    Spells (front ++ back) (first ++ second) := by
  intro before
  obtain ⟨after, read, holds⟩ := spells (first.reverse ++ before)
  refine ⟨after, ?_, ?_⟩
  · rw [scanFrom_append back (closes before), read]
  · rwa [List.reverse_append, List.append_assoc]

/-- What begins with no part of a numeral may stand behind one. -/
theorem Spells.append {front back : Bytes} {octet : UInt8} {first second : List Token}
    (spells : Spells front first) (delimiter : isDelimiter octet = true)
    (then_ : Spells (octet :: back) second) :
    Spells (front ++ octet :: back) (first ++ second) := by
  intro before
  obtain ⟨middle, readFront, holdsFront⟩ := spells before
  obtain ⟨after, readBack, holds⟩ := then_ (first.reverse ++ before)
  refine ⟨after, ?_, ?_⟩
  · rw [scanFrom_append _ readFront, ← readBack, scanFrom, scanFrom, List.foldlM_cons,
      List.foldlM_cons, holdsFront.step_delimiter delimiter]
  · rwa [List.reverse_append, List.append_assoc]

theorem Spells.append_closes {front back : Bytes} {octet : UInt8} {first second : List Token}
    (spells : Spells front first) (delimiter : isDelimiter octet = true)
    (closes : Closes (octet :: back) second) :
    Closes (front ++ octet :: back) (first ++ second) := by
  intro before
  obtain ⟨middle, readFront, holdsFront⟩ := spells before
  rw [scanFrom_append _ readFront, List.reverse_append, List.append_assoc, ← closes, scanFrom,
    scanFrom, List.foldlM_cons, List.foldlM_cons, holdsFront.step_delimiter delimiter]

theorem Spells.tokens? {octets : Bytes} {tokens : List Token} (spells : Spells octets tokens) :
    tokens? octets = some tokens := by
  obtain ⟨after, read, holds⟩ := spells []
  change (scanFrom ⟨.nothing, []⟩ octets).bind Scanner.finish? = some tokens
  rw [read, Option.bind_some, holds.finish?, List.append_nil, List.reverse_reverse]

/-! ### Numerals -/

theorem digitOfOctet?_octetOfDigit (digit : Digit) :
    Numeral.digitOfOctet? (Numeral.octetOfDigit digit) = some digit := by
  revert digit
  decide

theorem scanFrom_digits (grow : List Digit → Draft)
    (pushed : ∀ read digit,
      (grow read).push? (Numeral.octetOfDigit digit) = some (grow (digit :: read)))
    (tokens : List Token) (digits read : List Digit) :
    scanFrom ⟨.numeral (grow read), tokens⟩ (digits.map Numeral.octetOfDigit) =
      some ⟨.numeral (grow (digits.reverse ++ read)), tokens⟩ := by
  induction digits generalizing read with
  | nil => rfl
  | cons digit rest ih =>
    have read : Scanner.step ⟨.numeral (grow read), tokens⟩ (Numeral.octetOfDigit digit) =
        some ⟨.numeral (grow (digit :: read)), tokens⟩ := by
      simp only [Scanner.step, pushed]
    rw [List.map_cons, scanFrom_cons _ read, ih, List.reverse_cons, List.append_assoc]
    rfl

theorem begin?_digit (tokens : List Token) (digit : Digit) :
    begin? tokens (Numeral.octetOfDigit digit) =
      some ⟨.numeral (.start (if digit.val = 0 then .zero else .whole) false [digit]), tokens⟩ := by
  obtain ⟨value, bound⟩ := digit
  interval_cases value <;> rfl

theorem scanFrom_whole (negative : Bool) {whole : List Digit} (leads : Numeral.Leads whole)
    (tokens : List Token) :
    ∃ place, (place = .zero ∨ place = .whole) ∧
      scanFrom ⟨.nothing, tokens⟩
        ((if negative then [Bytes.ascii '-'] else []) ++ whole.map Numeral.octetOfDigit) =
        some ⟨.numeral ⟨place, negative, whole.reverse, [], false, []⟩, tokens⟩ := by
  obtain ⟨first, rest, rfl, alone⟩ := leads
  have begun : scanFrom ⟨.nothing, tokens⟩
      ((if negative then [Bytes.ascii '-'] else []) ++ [Numeral.octetOfDigit first]) =
      some ⟨.numeral ⟨if first.val = 0 then .zero else .whole, negative, [first], [], false, []⟩,
        tokens⟩ := by
    cases negative with
    | false => exact scanFrom_cons [] (begin?_digit tokens first)
    | true =>
      have signed : Scanner.step ⟨.nothing, tokens⟩ (Bytes.ascii '-') =
          some ⟨.numeral (.start .sign true []), tokens⟩ := rfl
      refine (scanFrom_cons _ signed).trans (scanFrom_cons [] ?_)
      simp only [Scanner.step, Draft.push?, Draft.start, digitOfOctet?_octetOfDigit]
  have split : (if negative then [Bytes.ascii '-'] else []) ++
      (first :: rest).map Numeral.octetOfDigit =
      ((if negative then [Bytes.ascii '-'] else []) ++ [Numeral.octetOfDigit first]) ++
        rest.map Numeral.octetOfDigit := by
    rw [List.append_assoc]
    rfl
  rw [split, scanFrom_append _ begun]
  by_cases nought : first.val = 0
  · refine ⟨.zero, .inl rfl, ?_⟩
    rw [alone nought, if_pos nought]
    rfl
  · refine ⟨.whole, .inr rfl, ?_⟩
    rw [if_neg nought, List.reverse_cons]
    refine scanFrom_digits (fun read => ⟨.whole, negative, read, [], false, []⟩) ?_
      tokens rest [first]
    intro read digit
    simp only [Draft.push?, digitOfOctet?_octetOfDigit]

theorem scanFrom_fraction {place : Place} (open_ : place = .zero ∨ place = .whole)
    (negative : Bool) (whole fraction : List Digit) (tokens : List Token) :
    ∃ next, (next = .zero ∨ next = .whole ∨ next = .fraction) ∧
      scanFrom ⟨.numeral ⟨place, negative, whole, [], false, []⟩, tokens⟩
        (if fraction.isEmpty then []
          else Bytes.ascii '.' :: fraction.map Numeral.octetOfDigit) =
        some ⟨.numeral ⟨next, negative, whole, fraction.reverse, false, []⟩, tokens⟩ := by
  cases fraction with
  | nil => exact ⟨place, open_.elim .inl (.inr ∘ .inl), rfl⟩
  | cons first rest =>
    refine ⟨.fraction, .inr (.inr rfl), ?_⟩
    have pointed : Scanner.step ⟨.numeral ⟨place, negative, whole, [], false, []⟩, tokens⟩
        (Bytes.ascii '.') =
        some ⟨.numeral ⟨.point, negative, whole, [], false, []⟩, tokens⟩ := by
      rcases open_ with rfl | rfl <;> rfl
    have begun : Scanner.step ⟨.numeral ⟨.point, negative, whole, [], false, []⟩, tokens⟩
        (Numeral.octetOfDigit first) =
        some ⟨.numeral ⟨.fraction, negative, whole, [first], false, []⟩, tokens⟩ := by
      simp only [Scanner.step, Draft.push?, digitOfOctet?_octetOfDigit]
    rw [List.isEmpty_cons, if_neg (by decide), scanFrom_cons _ pointed, List.map_cons,
      scanFrom_cons _ begun, List.reverse_cons]
    refine scanFrom_digits (fun read => ⟨.fraction, negative, whole, read, false, []⟩) ?_
      tokens rest [first]
    intro read digit
    simp only [Draft.push?, digitOfOctet?_octetOfDigit]

theorem scanFrom_sign {minus : Bool} {sign : Bytes} (signed : WritesSign minus sign)
    (negative : Bool) (whole fraction : List Digit) (first : Digit) (tokens : List Token) :
    scanFrom ⟨.numeral ⟨.mark, negative, whole, fraction, false, []⟩, tokens⟩
        (sign ++ [Numeral.octetOfDigit first]) =
      some ⟨.numeral ⟨.power, negative, whole, fraction, minus, [first]⟩, tokens⟩ := by
  have begun : ∀ place, place = .mark ∨ place = .powerSign → ∀ minus,
      Scanner.step ⟨.numeral ⟨place, negative, whole, fraction, minus, []⟩, tokens⟩
        (Numeral.octetOfDigit first) =
      some ⟨.numeral ⟨.power, negative, whole, fraction, minus, [first]⟩, tokens⟩ := by
    intro place either minus
    rcases either with rfl | rfl
    · simp only [Scanner.step, Draft.push?, digitOfOctet?_octetOfDigit]
    · simp only [Scanner.step, Draft.push?, digitOfOctet?_octetOfDigit]
  cases signed with
  | absent => exact scanFrom_cons [] (begun _ (.inl rfl) _)
  | plus => exact (scanFrom_cons _ rfl).trans (scanFrom_cons [] (begun _ (.inr rfl) _))
  | minus => exact (scanFrom_cons _ rfl).trans (scanFrom_cons [] (begun _ (.inr rfl) _))

theorem scanFrom_power {place : Place}
    (open_ : place = .zero ∨ place = .whole ∨ place = .fraction) (negative : Bool)
    (whole fraction : List Digit) {power : Option Int} {octets : Bytes}
    (written : WritesPower power octets) (tokens : List Token) :
    ∃ draft, draft.finish? = some ⟨negative, whole.reverse, fraction.reverse, power⟩ ∧
      scanFrom ⟨.numeral ⟨place, negative, whole, fraction, false, []⟩, tokens⟩ octets =
        some ⟨.numeral draft, tokens⟩ := by
  cases written with
  | absent =>
    refine ⟨_, ?_, rfl⟩
    rcases open_ with rfl | rfl | rfl <;> rfl
  | @present mark minus sign digits marked signed filled =>
    obtain ⟨first, rest, rfl⟩ := List.exists_cons_of_ne_nil filled
    have begun : Scanner.step ⟨.numeral ⟨place, negative, whole, fraction, false, []⟩, tokens⟩
        (Bytes.ascii mark) =
        some ⟨.numeral ⟨.mark, negative, whole, fraction, false, []⟩, tokens⟩ := by
      rcases marked with rfl | rfl <;> rcases open_ with rfl | rfl | rfl <;> rfl
    refine ⟨⟨.power, negative, whole, fraction, minus, rest.reverse ++ [first]⟩, ?_, ?_⟩
    · simp only [Draft.finish?, List.reverse_append, List.reverse_reverse, List.reverse_singleton,
        List.singleton_append]
    · rw [scanFrom_cons _ begun, List.map_cons, List.append_cons,
        scanFrom_append _ (scanFrom_sign signed negative whole fraction first tokens)]
      refine scanFrom_digits (fun read => ⟨.power, negative, whole, fraction, minus, read⟩) ?_
        tokens rest [first]
      intro read digit
      simp only [Draft.push?, digitOfOctet?_octetOfDigit]

theorem spells_numeral {numeral : Numeral} {octets : Bytes}
    (written : WritesNumeral numeral octets) : Spells octets [.number numeral] := by
  intro before
  obtain ⟨leads, rest, written, rfl⟩ := written
  obtain ⟨place, open_, whole⟩ := scanFrom_whole numeral.negative leads before
  obtain ⟨next, still, fraction⟩ :=
    scanFrom_fraction open_ numeral.negative numeral.whole.reverse numeral.fraction before
  obtain ⟨draft, ends, power⟩ := scanFrom_power still numeral.negative numeral.whole.reverse
    numeral.fraction.reverse written before
  rw [List.reverse_reverse, List.reverse_reverse] at ends
  refine ⟨⟨.numeral draft, before⟩, ?_, .numeral before ends⟩
  rw [scanFrom_append _ ((scanFrom_append _ whole).trans fraction)]
  exact power

/-! ### Texts -/

namespace Passage

def push (passage : Passage) : Piece → Passage
  | .letter letter => (String.utf8EncodeChar letter).foldl pushOctet passage
  | .unit code => passage.pushUnit code

theorem foldl_pushOctet (octets : Bytes) (filled : octets ≠ []) (passage : Passage) :
    octets.foldl pushOctet passage =
      ⟨octets.reverse ++ passage.octets, none, passage.sound && passage.high.isNone⟩ := by
  induction octets generalizing passage with
  | nil => exact absurd rfl filled
  | cons octet rest ih =>
    cases rest with
    | nil => rfl
    | cons next later =>
      rw [List.foldl_cons, ih (List.cons_ne_nil _ _), List.reverse_cons, List.append_assoc]
      simp [pushOctet]

theorem push_letter (passage : Passage) (letter : Char) :
    passage.push (.letter letter) =
      ⟨(String.utf8EncodeChar letter).reverse ++ passage.octets, none,
        passage.sound && passage.high.isNone⟩ :=
  foldl_pushOctet _ (by simp) passage

theorem pushUnit_high {code : Nat} (high : isHigh code = true) (passage : Passage) :
    passage.pushUnit code =
      ⟨passage.octets, some code, passage.sound && passage.high.isNone⟩ := by
  rw [pushUnit, if_pos high]

theorem pushUnit_low {code : Nat} (noHigh : isHigh code = false) (low : isLow code = true)
    (passage : Passage) :
    passage.pushUnit code =
      match passage.high with
      | some high =>
        ⟨(String.utf8EncodeChar (Char.ofNat (join high code))).reverse ++ passage.octets, none,
          passage.sound⟩
      | none => ⟨passage.octets, none, false⟩ := by
  obtain ⟨octets, high, sound⟩ := passage
  cases high with
  | none => simp [pushUnit, noHigh, low]
  | some high => simp [pushUnit, noHigh, low, pushCode]

theorem pushUnit_letter {code : Nat} (noHigh : isHigh code = false) (noLow : isLow code = false)
    (passage : Passage) :
    passage.pushUnit code =
      ⟨(String.utf8EncodeChar (Char.ofNat code)).reverse ++ passage.octets, none,
        passage.sound && passage.high.isNone⟩ := by
  simp [pushUnit, noHigh, noLow, pushCode]

theorem isHigh_of_isLow {code : Nat} (low : isLow code = true) : isHigh code = false := by
  simp only [isLow, Bool.and_eq_true, decide_eq_true_eq] at low
  simp only [isHigh, Bool.and_eq_false_iff, decide_eq_false_iff_not]
  omega

/-- Only the low half of a pair may stand behind the high one. -/
def completes : Piece → Bool
  | .letter _ => false
  | .unit code => isLow code

/-- A text that is no longer sound stays so, and one that waits for a low half loses its soundness
with anything else. -/
theorem sound_push {passage : Passage} {piece : Piece}
    (spoilt : passage.sound = false ∨ passage.high.isSome = true ∧ completes piece = false) :
    (passage.push piece).sound = false := by
  obtain ⟨octets, waiting, sound⟩ := passage
  change sound = false ∨ waiting.isSome = true ∧ completes piece = false at spoilt
  have neither : (sound && waiting.isNone) = false := by
    rcases spoilt with unsound | ⟨waits, _other⟩
    · rw [unsound, Bool.false_and]
    · rw [← Option.not_isSome, waits, Bool.not_true, Bool.and_false]
  cases piece with
  | letter letter =>
    rw [push_letter]
    exact neither
  | unit code =>
    rw [push]
    cases high : isHigh code with
    | true =>
      rw [pushUnit_high high]
      exact neither
    | false =>
      cases low : isLow code with
      | true =>
        rw [pushUnit_low high low]
        rcases spoilt with unsound | ⟨_waits, other⟩
        · cases waiting with
          | none => rfl
          | some before => exact unsound
        · exact absurd low (Bool.eq_false_iff.mp other)
      | false =>
        rw [pushUnit_letter high low]
        exact neither

theorem text?_of_unsound (pieces : List Piece) {passage : Passage}
    (unsound : passage.sound = false) : (pieces.foldl push passage).text? = none := by
  induction pieces generalizing passage with
  | nil => simp [text?, unsound]
  | cons piece rest ih => exact ih (sound_push (.inl unsound))

/-- A text is the letters that its pieces stand for. -/
theorem text?_foldl_push (pieces : List Piece) (octets : Bytes) :
    (pieces.foldl push ⟨octets, none, true⟩).text? =
      (letters? pieces).bind fun letters =>
        Bytes.text? (octets.reverse ++ letters.flatMap String.utf8EncodeChar) := by
  -- Whenever the meaning goes on behind a piece, no half of a pair waits in what was read.
  fun_induction letters? pieces generalizing octets with
  | case1 => simp [text?]
  | case2 letter rest ih =>
    rw [List.foldl_cons, push_letter]
    refine (ih _).trans ?_
    cases letters? rest <;> simp [List.reverse_append]
  | case3 code high low rest isLow ih =>
    rw [List.foldl_cons, List.foldl_cons, push, push, pushUnit_high high,
      pushUnit_low (isHigh_of_isLow isLow) isLow]
    refine (ih _).trans ?_
    cases letters? rest <;> simp [List.reverse_append]
  | case4 code high low rest noLow =>
    have waits : push ⟨octets, none, true⟩ (.unit code) = ⟨octets, some code, true⟩ :=
      pushUnit_high high _
    rw [List.foldl_cons, List.foldl_cons, waits]
    exact text?_of_unsound rest (sound_push (.inr ⟨rfl, Bool.eq_false_iff.mpr noLow⟩))
  | case5 code rest high noUnit =>
    rw [List.foldl_cons, push, pushUnit_high high]
    cases rest with
    | nil => rfl
    | cons piece later =>
      apply text?_of_unsound later
      cases piece with
      | letter letter => exact sound_push (.inr ⟨rfl, rfl⟩)
      | unit low => exact absurd rfl (noUnit low later)
  | case6 code rest noHigh low =>
    rw [List.foldl_cons, push, pushUnit_low (Bool.eq_false_iff.mpr noHigh) low]
    exact text?_of_unsound rest rfl
  | case7 code rest noHigh noLow ih =>
    rw [List.foldl_cons, push,
      pushUnit_letter (Bool.eq_false_iff.mpr noHigh) (Bool.eq_false_iff.mpr noLow)]
    refine (ih _).trans ?_
    cases letters? rest <;> simp [List.reverse_append]

end Passage

theorem scanFrom_letters (octets : Bytes)
    (plain : ∀ octet ∈ octets, 0x20 ≤ octet.toNat ∧ octet ≠ Bytes.ascii '"' ∧
      octet ≠ Bytes.ascii '\\') (passage : Passage) (tokens : List Token) :
    scanFrom ⟨.text passage, tokens⟩ octets =
      some ⟨.text (octets.foldl Passage.pushOctet passage), tokens⟩ := by
  induction octets generalizing passage with
  | nil => rfl
  | cons octet rest ih =>
    obtain ⟨printable, noQuote, noBackslash⟩ := plain octet List.mem_cons_self
    have read : Scanner.step ⟨.text passage, tokens⟩ octet =
        some ⟨.text (passage.pushOctet octet), tokens⟩ := by
      simp only [Scanner.step, if_neg noQuote, if_neg noBackslash,
        if_neg (Nat.not_lt.mpr printable)]
    rw [scanFrom_cons _ read]
    exact ih (fun later member => plain later (List.mem_cons_of_mem _ member)) _

theorem step_code {octet : UInt8} {digit : Nat} (hex : Text.Hex.value? octet = some digit)
    (passage : Passage) (digits value : Nat) (tokens : List Token) :
    Scanner.step ⟨.code passage digits value, tokens⟩ octet =
      some (if digits = 3 then ⟨.text (passage.pushUnit (value * 16 + digit)), tokens⟩
        else ⟨.code passage (digits + 1) (value * 16 + digit), tokens⟩) := by
  have read : hexDigit? octet = some digit := hex
  simp only [Scanner.step, read, Option.map_some]

theorem scanFrom_unit {digits : Bytes} {high low : UInt8}
    (hex : Text.Hex.decode? digits = some [high, low]) (passage : Passage)
    (tokens : List Token) :
    scanFrom ⟨.text passage, tokens⟩ (Bytes.ascii '\\' :: Bytes.ascii 'u' :: digits) =
      some ⟨.text (passage.pushUnit (high.toNat * 256 + low.toNat)), tokens⟩ := by
  obtain ⟨_, _, _, first, second, rfl, readFirst, readSecond, highCode, others⟩ :=
    Text.Hex.exists_of_decode?_cons hex
  obtain ⟨_, _, _, third, fourth, rfl, readThird, readFourth, lowCode, ends⟩ :=
    Text.Hex.exists_of_decode?_cons others
  -- Digit by digit the scanner gathers the number that the two octets are.
  have value : (((0 * 16 + first) * 16 + second) * 16 + third) * 16 + fourth =
      high.toNat * 256 + low.toNat := by omega
  rw [Text.Hex.eq_nil_of_decode? ends, scanFrom_cons _ rfl, scanFrom_cons _ rfl,
    scanFrom_cons _ (step_code readFirst passage 0 0 tokens), if_neg (by decide),
    scanFrom_cons _ (step_code readSecond passage _ _ tokens), if_neg (by decide),
    scanFrom_cons _ (step_code readThird passage _ _ tokens), if_neg (by decide),
    scanFrom_cons _ (step_code readFourth passage _ _ tokens), if_pos rfl, value]
  rfl

theorem scanFrom_piece {piece : Piece} {octets : Bytes} (written : WritesPiece piece octets)
    (passage : Passage) (tokens : List Token) :
    scanFrom ⟨.text passage, tokens⟩ octets = some ⟨.text (passage.push piece), tokens⟩ := by
  cases written with
  | @plain letter printable noQuote noBackslash =>
    apply scanFrom_letters
    intro octet member
    rcases Bytes.utf8EncodeChar_cases letter with ⟨small, encoded⟩ | ⟨_large, large⟩
    · rw [encoded, List.mem_singleton] at member
      have code : octet.toNat = letter.toNat := by
        rw [member, UInt8.toNat_ofNat']
        omega
      refine ⟨by omega, ?_, ?_⟩
      · rintro rfl
        exact noQuote (Char.toNat_inj.mp code.symm)
      · rintro rfl
        exact noBackslash (Char.toNat_inj.mp code.symm)
    · have bound := large octet member
      refine ⟨by omega, ?_, ?_⟩
      · rintro rfl
        exact absurd bound (by decide)
      · rintro rfl
        exact absurd bound (by decide)
  | @named mark letter entry =>
    simp only [namedLetters, List.mem_cons, Prod.mk.injEq, List.not_mem_nil, or_false] at entry
    rcases entry with ⟨rfl, rfl⟩ | ⟨rfl, rfl⟩ | ⟨rfl, rfl⟩ | ⟨rfl, rfl⟩ | ⟨rfl, rfl⟩ | ⟨rfl, rfl⟩ |
      ⟨rfl, rfl⟩ | ⟨rfl, rfl⟩ <;> rfl
  | unit hex => exact scanFrom_unit hex passage tokens

theorem scanFrom_pieces {pieces : List Piece} {octets : Bytes}
    (written : WritesPieces pieces octets) (passage : Passage) (tokens : List Token) :
    scanFrom ⟨.text passage, tokens⟩ octets =
      some ⟨.text (pieces.foldl Passage.push passage), tokens⟩ := by
  induction written generalizing passage with
  | nil => rfl
  | cons first others ih =>
    rw [scanFrom_append _ (scanFrom_piece first passage tokens), ih]
    rfl

theorem closes_text {text : Option String} {octets : Bytes} (quoted : WritesText text octets) :
    Closes octets [.string text] := by
  intro before
  obtain ⟨pieces, inside, written, rfl, rfl⟩ := quoted
  have opened : Scanner.step ⟨.nothing, before⟩ (Bytes.ascii '"') =
      some ⟨.text .start, before⟩ := rfl
  have read : (pieces.foldl Passage.push .start).text? = (letters? pieces).map String.ofList := by
    refine (Passage.text?_foldl_push pieces []).trans ?_
    cases letters? pieces with
    | none => rfl
    | some letters =>
      rw [Option.bind_some, List.reverse_nil, List.nil_append, ← Bytes.ofText_ofList,
        Bytes.text?_ofText]
      rfl
  have closed : Scanner.step ⟨.text (pieces.foldl Passage.push .start), before⟩
      (Bytes.ascii '"') =
      some ⟨.nothing, .string ((letters? pieces).map String.ofList) :: before⟩ := by
    rw [← read]
    rfl
  rw [List.cons_append, scanFrom_cons _ opened,
    scanFrom_append _ (scanFrom_pieces written .start before)]
  exact scanFrom_cons [] closed

end Telemetry.Json
