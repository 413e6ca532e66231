import Mathlib.Data.List.Basic
import Telemetry.Json.Token
import Telemetry.Json.Writer
import Telemetry.Proofs.Numerals
import Telemetry.Proofs.Texts
import Telemetry.Text.Hex
/-!
The grammar of JSON, letter by letter. One document has many texts: with blanks between the tokens,
with letters written as themselves or escaped, with a power of ten in several forms. `Written` and
`Spaced` relate a document to its texts, without and with blanks around it. Both layouts that this
library writes are among them (`written_compact`, `written_pretty`), and all of them are UTF-8
(`isText_written`).

An escape may name half of a surrogate pair. A text with half a pair on its own is well-formed, but
nobody can say what its letters are, so that the document has `none` in its place.
-/

namespace Telemetry.Json

/-- Spaces, tabs and the ends of lines. -/
def Blank (octets : Bytes) : Prop := ∀ octet ∈ octets, octet ∈ ([0x20, 0x09, 0x0A, 0x0D] : Bytes)

theorem Blank.nil : Blank [] := nofun

theorem Blank.append {front back : Bytes} (first : Blank front) (second : Blank back) :
    Blank (front ++ back) := by
  intro octet member
  rcases List.mem_append.mp member with before | after
  · exact first octet before
  · exact second octet after

/-! ### Numerals -/

/-- The sign of a power of ten, which may be left out unless it is a minus. -/
inductive WritesSign : Bool → Bytes → Prop where
  | absent : WritesSign false []
  | plus : WritesSign false [Bytes.ascii '+']
  | minus : WritesSign true [Bytes.ascii '-']

/-- A power of ten, whose digits may begin with noughts. -/
inductive WritesPower : Option Int → Bytes → Prop where
  | absent : WritesPower none []
  | present {mark : Char} {negative : Bool} {sign : Bytes} {digits : List Digit}
      (marked : mark = 'e' ∨ mark = 'E') (signed : WritesSign negative sign)
      (filled : digits ≠ []) :
      WritesPower
        (some (if negative then -(Numeral.digitsValue digits : Int)
          else Numeral.digitsValue digits))
        (Bytes.ascii mark :: (sign ++ digits.map Numeral.octetOfDigit))

def WritesNumeral (numeral : Numeral) (octets : Bytes) : Prop :=
  Numeral.Leads numeral.whole ∧ ∃ power, WritesPower numeral.power power ∧
    octets = (if numeral.negative then [Bytes.ascii '-'] else []) ++
      numeral.whole.map Numeral.octetOfDigit ++
      (if numeral.fraction.isEmpty then []
        else Bytes.ascii '.' :: numeral.fraction.map Numeral.octetOfDigit) ++ power

/-! ### Texts -/

/-- What stands between two quotes: letters, and the units of UTF-16 that an escape names. -/
inductive Piece where
  | letter (letter : Char)
  | unit (code : Nat)

/-- The letters with an escape of their own, behind the letter that stands for each in it. -/
def namedLetters : List (Char × Char) :=
  [('"', '"'), ('\\', '\\'), ('/', '/'), ('b', '\x08'), ('f', '\x0c'), ('n', '\n'), ('r', '\r'),
    ('t', '\t')]

inductive WritesPiece : Piece → Bytes → Prop where
  | plain {letter : Char} (printable : 0x20 ≤ letter.toNat) (noQuote : letter ≠ '"')
      (noBackslash : letter ≠ '\\') : WritesPiece (.letter letter) (String.utf8EncodeChar letter)
  | named {mark letter : Char} (entry : (mark, letter) ∈ namedLetters) :
      WritesPiece (.letter letter) [Bytes.ascii '\\', Bytes.ascii mark]
  | unit {digits : Bytes} {high low : UInt8} (hex : Text.Hex.decode? digits = some [high, low]) :
      WritesPiece (.unit (high.toNat * 256 + low.toNat))
        (Bytes.ascii '\\' :: Bytes.ascii 'u' :: digits)

inductive WritesPieces : List Piece → Bytes → Prop where
  | nil : WritesPieces [] []
  | cons {piece : Piece} {rest : List Piece} {front back : Bytes}
      (first : WritesPiece piece front) (others : WritesPieces rest back) :
      WritesPieces (piece :: rest) (front ++ back)

/-- The letters that pieces stand for, unless there is half of a pair on its own. -/
def letters? : List Piece → Option (List Char)
  | [] => some []
  | .letter letter :: rest => (letters? rest).map (letter :: ·)
  | .unit code :: rest =>
    if Passage.isHigh code then
      match rest with
      | .unit low :: rest =>
        if Passage.isLow low then (letters? rest).map (Char.ofNat (Passage.join code low) :: ·)
        else none
      | _ => none
    else if Passage.isLow code then none
    else (letters? rest).map (Char.ofNat code :: ·)

def WritesText (text : Option String) (octets : Bytes) : Prop :=
  ∃ pieces inside, WritesPieces pieces inside ∧ text = (letters? pieces).map String.ofList ∧
    octets = Bytes.ascii '"' :: inside ++ [Bytes.ascii '"']

/-! ### Documents -/

mutual

inductive Written : Json → Bytes → Prop where
  | null : Written .null (writeWord "null")
  | yes : Written (.bool true) (writeWord "true")
  | no : Written (.bool false) (writeWord "false")
  | number {numeral : Numeral} {octets : Bytes} (digits : WritesNumeral numeral octets) :
      Written (.number numeral) octets
  | string {text : Option String} {octets : Bytes} (quoted : WritesText text octets) :
      Written (.string text) octets
  | array {items : List Json} {octets : Bytes} (inside : WrittenItems items octets) :
      Written (.array items) (Bytes.ascii '[' :: octets ++ [Bytes.ascii ']'])
  | object {members : List (Option String × Json)} {octets : Bytes}
      (inside : WrittenMembers members octets) :
      Written (.object members) (Bytes.ascii '\x7b' :: octets ++ [Bytes.ascii '\x7d'])

inductive Spaced : Json → Bytes → Prop where
  | intro {value : Json} {before octets after : Bytes} (blankBefore : Blank before)
      (written : Written value octets) (blankAfter : Blank after) :
      Spaced value (before ++ octets ++ after)

inductive WrittenItems : List Json → Bytes → Prop where
  | empty {octets : Bytes} (blank : Blank octets) : WrittenItems [] octets
  | last {item : Json} {octets : Bytes} (spaced : Spaced item octets) : WrittenItems [item] octets
  | more {item next : Json} {rest : List Json} {octets others : Bytes}
      (spaced : Spaced item octets) (later : WrittenItems (next :: rest) others) :
      WrittenItems (item :: next :: rest) (octets ++ Bytes.ascii ',' :: others)

inductive WrittenMember : Option String → Json → Bytes → Prop where
  | intro {name : Option String} {value : Json} {before text after octets : Bytes}
      (blankBefore : Blank before) (quoted : WritesText name text) (blankAfter : Blank after)
      (spaced : Spaced value octets) :
      WrittenMember name value (before ++ text ++ after ++ Bytes.ascii ':' :: octets)

inductive WrittenMembers : List (Option String × Json) → Bytes → Prop where
  | empty {octets : Bytes} (blank : Blank octets) : WrittenMembers [] octets
  | last {name : Option String} {value : Json} {octets : Bytes}
      (member : WrittenMember name value octets) : WrittenMembers [(name, value)] octets
  | more {name : Option String} {value : Json} {next : Option String × Json}
      {rest : List (Option String × Json)} {octets others : Bytes}
      (member : WrittenMember name value octets) (later : WrittenMembers (next :: rest) others) :
      WrittenMembers ((name, value) :: next :: rest) (octets ++ Bytes.ascii ',' :: others)

end

theorem Written.spaced {value : Json} {octets : Bytes} (written : Written value octets) :
    Spaced value octets := by
  have bare := Spaced.intro Blank.nil written Blank.nil
  rwa [List.nil_append, List.append_nil] at bare

theorem Spaced.append_blank {value : Json} {octets after : Bytes} (spaced : Spaced value octets)
    (blank : Blank after) : Spaced value (octets ++ after) := by
  cases spaced with
  | intro blankBefore written blankAfter =>
    rw [List.append_assoc]
    exact .intro blankBefore written (blankAfter.append blank)

theorem WrittenItems.append_blank {after : Bytes} (blank : Blank after) :
    ∀ {items : List Json} {octets : Bytes}, WrittenItems items octets →
      WrittenItems items (octets ++ after)
  | _, _, .empty inside => .empty (inside.append blank)
  | _, _, .last spaced => .last (spaced.append_blank blank)
  | _, _, .more spaced later => by
    rw [List.append_assoc, List.cons_append]
    exact .more spaced (later.append_blank blank)

theorem WrittenMembers.append_blank {after : Bytes} (blank : Blank after) :
    ∀ {members : List (Option String × Json)} {octets : Bytes}, WrittenMembers members octets →
      WrittenMembers members (octets ++ after)
  | _, _, .empty inside => .empty (inside.append blank)
  | _, _, .last (.intro blankBefore quoted blankAfter spaced) => by
    rw [List.append_assoc, List.cons_append]
    exact .last (.intro blankBefore quoted blankAfter (spaced.append_blank blank))
  | _, _, .more member later => by
    rw [List.append_assoc, List.cons_append]
    exact .more member (later.append_blank blank)

theorem WritesText.member {name : Option String} {value : Json} {text octets : Bytes}
    (quoted : WritesText name text) (spaced : Spaced value octets) :
    WrittenMember name value (text ++ Bytes.ascii ':' :: octets) := by
  have bare := WrittenMember.intro .nil quoted .nil spaced
  rwa [List.nil_append, List.append_nil] at bare

/-! ### What is written -/

theorem writesNumeral_write (numeral : Numeral) (leads : Numeral.Leads numeral.whole) :
    WritesNumeral numeral numeral.write := by
  refine ⟨leads, _, ?_, rfl⟩
  cases numeral.power with
  | none => exact .absent
  | some power =>
    have filled : Numeral.digitsOf power.natAbs ≠ [] := by
      obtain ⟨first, rest, digits, _alone⟩ := Numeral.leads_digitsOf power.natAbs
      rw [digits]
      exact List.cons_ne_nil _ _
    change WritesPower (some power)
      (Bytes.ascii 'e' :: Bytes.ascii (if power < 0 then '-' else '+') :: _)
    by_cases below : power < 0
    · have size : -(power.natAbs : Int) = power := by omega
      have written := WritesPower.present (.inl rfl) .minus filled
      rw [Numeral.digitsValue_digitsOf, if_pos rfl, size] at written
      rwa [if_pos below]
    · have size : (power.natAbs : Int) = power := by omega
      have written := WritesPower.present (.inl rfl) .plus filled
      rw [Numeral.digitsValue_digitsOf, if_neg (by decide), size] at written
      rwa [if_neg below]

/-- A letter below 128 is written by its own escape, by its number, or as itself. -/
theorem escapeOctet_cases : ∀ code < 128,
    (∃ entry ∈ namedLetters, entry.2.toNat = code ∧
      escapeOctet (UInt8.ofNat code) = [Bytes.ascii '\\', Bytes.ascii entry.1]) ∨
    (code < 0x20 ∧ escapeOctet (UInt8.ofNat code) =
      Bytes.ascii '\\' :: Bytes.ascii 'u' :: Text.Hex.encode [0, UInt8.ofNat code]) ∨
    (0x20 ≤ code ∧ code ≠ '"'.toNat ∧ code ≠ '\\'.toNat ∧
      escapeOctet (UInt8.ofNat code) = [UInt8.ofNat code]) := by
  decide +kernel

theorem escapeOctet_large {octet : UInt8} (large : 128 ≤ octet.toNat) :
    escapeOctet octet = [octet] := by
  have plain : octet ∉ namedOctets := by
    simp only [namedOctets, List.mem_cons, List.not_mem_nil, or_false]
    rintro (rfl | rfl | rfl | rfl | rfl | rfl | rfl) <;> exact absurd large (by decide)
  rw [escapeOctet_of_not_mem plain, if_neg (by omega)]

/-- A unit that is no half of a pair stands for the letter of its number. -/
theorem letters?_unit {code : Nat} (single : code < 0xD800) (rest : List Piece) :
    letters? (.unit code :: rest) = (letters? rest).map (Char.ofNat code :: ·) := by
  have noHigh : Passage.isHigh code = false := by
    simp only [Passage.isHigh, Bool.and_eq_false_iff, decide_eq_false_iff_not]
    omega
  have noLow : Passage.isLow code = false := by
    simp only [Passage.isLow, Bool.and_eq_false_iff, decide_eq_false_iff_not]
    omega
  rw [letters?.eq_def]
  simp [noHigh, noLow]

/-- Every letter is written as a piece that stands for it. -/
theorem exists_piece (letter : Char) :
    ∃ piece, WritesPiece piece ((String.utf8EncodeChar letter).flatMap escapeOctet) ∧
      ∀ rest, letters? (piece :: rest) = (letters? rest).map (letter :: ·) := by
  rcases Bytes.utf8EncodeChar_cases letter with ⟨small, encoded⟩ | ⟨large, octets⟩
  · rw [encoded, List.flatMap_singleton]
    rcases escapeOctet_cases letter.toNat small with
      ⟨⟨mark, other⟩, entry, same, written⟩ | ⟨control, written⟩ |
        ⟨printable, noQuote, noBackslash, written⟩
    · have known : other = letter := Char.toNat_inj.mp same
      subst known
      rw [written]
      exact ⟨_, .named entry, fun _rest => rfl⟩
    · have code : (0 : UInt8).toNat * 256 + (UInt8.ofNat letter.toNat).toNat = letter.toNat := by
        rw [UInt8.toNat_ofNat', UInt8.toNat_zero]
        omega
      rw [written]
      refine ⟨_, .unit (Text.Hex.decode?_encode _), fun rest => ?_⟩
      rw [code, letters?_unit (by omega), Char.ofNat_toNat]
    · rw [written, ← encoded]
      exact ⟨_, .plain printable (ne_of_apply_ne _ noQuote) (ne_of_apply_ne _ noBackslash),
        fun _rest => rfl⟩
  · have plain : (String.utf8EncodeChar letter).flatMap escapeOctet =
        String.utf8EncodeChar letter := by
      rw [List.flatMap_congr fun octet member => escapeOctet_large (octets octet member),
        List.flatMap_singleton']
    rw [plain]
    refine ⟨_, .plain (by omega) ?_ ?_, fun _rest => rfl⟩
    · rintro rfl
      exact absurd large (by decide)
    · rintro rfl
      exact absurd large (by decide)

theorem exists_pieces (letters : List Char) :
    ∃ pieces, letters? pieces = some letters ∧
      WritesPieces pieces ((letters.flatMap String.utf8EncodeChar).flatMap escapeOctet) := by
  induction letters with
  | nil => exact ⟨[], rfl, .nil⟩
  | cons letter rest ih =>
    obtain ⟨piece, first, stands⟩ := exists_piece letter
    obtain ⟨pieces, read, others⟩ := ih
    refine ⟨piece :: pieces, ?_, ?_⟩
    · rw [stands, read, Option.map_some]
    · rw [List.flatMap_cons, List.flatMap_append]
      exact .cons first others

theorem writesText_writeText {text : Option String} (known : text.isSome = true) :
    WritesText text (writeText text) := by
  obtain ⟨letters, rfl⟩ := Option.isSome_iff_exists.mp known
  obtain ⟨pieces, read, written⟩ := exists_pieces letters.toList
  rw [← Bytes.ofText_eq_flatMap] at written
  refine ⟨pieces, _, written, ?_, rfl⟩
  rw [read, Option.map_some, String.ofList_toList]

mutual

/-- Whether a document can be written without a loss: it has texts where texts belong, and its
numerals begin as numerals do. -/
def Writable : Json → Prop
  | .null => True
  | .bool _ => True
  | .number numeral => Numeral.Leads numeral.whole
  | .string text => text.isSome = true
  | .array items => WritableItems items
  | .object members => WritableMembers members

def WritableItems : List Json → Prop
  | [] => True
  | item :: rest => Writable item ∧ WritableItems rest

def WritableMembers : List (Option String × Json) → Prop
  | [] => True
  | (key, value) :: rest => key.isSome = true ∧ Writable value ∧ WritableMembers rest

end

mutual

theorem written_compact : ∀ value, Writable value → Written value (compact value)
  | .null, _ => .null
  | .bool true, _ => .yes
  | .bool false, _ => .no
  | .number numeral, leads => .number (writesNumeral_write numeral leads)
  | .string _, known => .string (writesText_writeText known)
  | .array items, writable => .array (writtenItems_compact items writable)
  | .object members, writable => .object (writtenMembers_compact members writable)

theorem writtenItems_compact :
    ∀ items, WritableItems items → WrittenItems items (compactItems items)
  | [], _ => .empty .nil
  | [item], ⟨writable, _⟩ => .last (written_compact item writable).spaced
  | item :: next :: rest, ⟨writable, others⟩ =>
    .more (written_compact item writable).spaced (writtenItems_compact (next :: rest) others)

theorem writtenMembers_compact :
    ∀ members, WritableMembers members → WrittenMembers members (compactMembers members)
  | [], _ => .empty .nil
  | [(_key, value)], ⟨known, writable, _⟩ =>
    .last ((writesText_writeText known).member (written_compact value writable).spaced)
  | (_key, value) :: next :: rest, ⟨known, writable, others⟩ =>
    .more ((writesText_writeText known).member (written_compact value writable).spaced)
      (writtenMembers_compact (next :: rest) others)

end

theorem blank_lineBreak (depth : Nat) : Blank (lineBreak depth) := by
  intro octet member
  rcases List.mem_cons.mp member with rfl | blank
  · decide
  · rw [List.eq_of_mem_replicate blank]
    decide

theorem WritesText.memberLine {name : Option String} {value : Json} {text octets : Bytes}
    (quoted : WritesText name text) (depth : Nat) (written : Written value octets) :
    WrittenMember name value (lineBreak depth ++ text ++ Bytes.ascii ':' :: 0x20 :: octets) := by
  have blank : Blank [0x20] := by
    intro octet member
    rw [List.mem_singleton.mp member]
    decide
  have spaced : Spaced value (0x20 :: octets) := by
    have one := Spaced.intro blank written .nil
    rwa [List.append_nil] at one
  have line := WrittenMember.intro (blank_lineBreak depth) quoted .nil spaced
  rwa [List.append_nil] at line

theorem Written.line {value : Json} {octets : Bytes} (written : Written value octets)
    (depth : Nat) : Spaced value (lineBreak depth ++ octets) := by
  have spaced := Spaced.intro (blank_lineBreak depth) written .nil
  rwa [List.append_nil] at spaced

mutual

theorem written_indented :
    ∀ depth value, Writable value → Written value (indented depth value)
  | _, .null, _ => .null
  | _, .bool true, _ => .yes
  | _, .bool false, _ => .no
  | _, .number numeral, leads => .number (writesNumeral_write numeral leads)
  | _, .string _, known => .string (writesText_writeText known)
  | _, .array [], _ => .array (.empty .nil)
  | depth, .array (item :: rest), writable =>
    .array ((writtenItems_indented (depth + 1) (item :: rest) writable).append_blank
      (blank_lineBreak depth))
  | _, .object [], _ => .object (.empty .nil)
  | depth, .object (member :: rest), writable =>
    .object ((writtenMembers_indented (depth + 1) (member :: rest) writable).append_blank
      (blank_lineBreak depth))

theorem writtenItems_indented :
    ∀ depth items, WritableItems items → WrittenItems items (indentedItems depth items)
  | _, [], _ => .empty .nil
  | depth, [item], ⟨writable, _⟩ => .last ((written_indented depth item writable).line depth)
  | depth, item :: next :: rest, ⟨writable, others⟩ =>
    .more ((written_indented depth item writable).line depth)
      (writtenItems_indented depth (next :: rest) others)

theorem writtenMembers_indented :
    ∀ depth members, WritableMembers members →
      WrittenMembers members (indentedMembers depth members)
  | _, [], _ => .empty .nil
  | depth, [(_key, value)], ⟨known, writable, _⟩ =>
    .last ((writesText_writeText known).memberLine depth (written_indented depth value writable))
  | depth, (_key, value) :: next :: rest, ⟨known, writable, others⟩ =>
    .more ((writesText_writeText known).memberLine depth (written_indented depth value writable))
      (writtenMembers_indented depth (next :: rest) others)

end

theorem written_pretty (value : Json) (writable : Writable value) :
    Written value (pretty value) := written_indented 0 value writable

/-! ### UTF-8 -/

open Bytes

theorem isText_blank {octets : Bytes} (blank : Blank octets) : IsText octets := by
  apply isText_of_ascii
  intro octet member
  have among := blank octet member
  simp only [List.mem_cons, List.not_mem_nil, or_false] at among
  rcases among with rfl | rfl | rfl | rfl <;> decide

theorem octetOfDigit_small (digit : Digit) : (Numeral.octetOfDigit digit).toNat < 128 := by
  revert digit
  decide

theorem isText_digits (digits : List Digit) : IsText (digits.map Numeral.octetOfDigit) := by
  apply isText_of_ascii
  intro octet member
  obtain ⟨digit, _inside, rfl⟩ := List.mem_map.mp member
  exact octetOfDigit_small digit

theorem isText_power {power : Option Int} {octets : Bytes} (written : WritesPower power octets) :
    IsText octets := by
  cases written with
  | absent => exact ⟨"", rfl⟩
  | @present mark _negative sign digits marked signed _filled =>
    have letter : IsText [Bytes.ascii mark] := by
      rcases marked with rfl | rfl
      · exact ⟨"e", rfl⟩
      · exact ⟨"E", rfl⟩
    have prefixed : IsText sign := by
      cases signed with
      | absent => exact ⟨"", rfl⟩
      | plus => exact ⟨"+", rfl⟩
      | minus => exact ⟨"-", rfl⟩
    exact letter.append (prefixed.append (isText_digits digits))

theorem isText_numeral {numeral : Numeral} {octets : Bytes}
    (written : WritesNumeral numeral octets) : IsText octets := by
  obtain ⟨_leads, power, raised, rfl⟩ := written
  have sign : IsText (if numeral.negative then [Bytes.ascii '-'] else []) := by
    cases numeral.negative with
    | false => exact ⟨"", rfl⟩
    | true => exact ⟨"-", rfl⟩
  have fraction : IsText (if numeral.fraction.isEmpty then []
      else Bytes.ascii '.' :: numeral.fraction.map Numeral.octetOfDigit) := by
    have point : IsText [Bytes.ascii '.'] := ⟨".", rfl⟩
    split
    · exact ⟨"", rfl⟩
    · exact point.append (isText_digits numeral.fraction)
  exact ((sign.append (isText_digits numeral.whole)).append fraction).append (isText_power raised)

theorem isText_piece {piece : Piece} {octets : Bytes} (written : WritesPiece piece octets) :
    IsText octets := by
  cases written with
  | @plain letter _printable _noQuote _noBackslash =>
    exact ⟨String.ofList [letter], (ofText_ofList [letter]).trans (List.flatMap_singleton _ _)⟩
  | @named mark letter entry =>
    have marks : ∀ entry ∈ namedLetters, (Bytes.ascii entry.1).toNat < 128 := by decide
    apply isText_of_ascii
    intro octet member
    rcases List.mem_cons.mp member with rfl | member
    · decide
    · rw [List.mem_singleton.mp member]
      exact marks (mark, letter) entry
  | unit hex =>
    have escape : IsText [Bytes.ascii '\\', Bytes.ascii 'u'] := ⟨"\\u", rfl⟩
    exact escape.append (isText_of_ascii (Text.Hex.small_of_decode? hex))

theorem isText_pieces {pieces : List Piece} {octets : Bytes}
    (written : WritesPieces pieces octets) : IsText octets := by
  induction written with
  | nil => exact ⟨"", rfl⟩
  | cons first _others ih => exact (isText_piece first).append ih

theorem isText_text {text : Option String} {octets : Bytes} (quoted : WritesText text octets) :
    IsText octets := by
  obtain ⟨pieces, inside, written, _meaning, rfl⟩ := quoted
  have quote : IsText [Bytes.ascii '"'] := ⟨"\"", rfl⟩
  exact (quote.append (isText_pieces written)).append quote

mutual

theorem isText_written : ∀ {value octets}, Written value octets → IsText octets
  | _, _, .null => ⟨"null", rfl⟩
  | _, _, .yes => ⟨"true", rfl⟩
  | _, _, .no => ⟨"false", rfl⟩
  | _, _, .number digits => isText_numeral digits
  | _, _, .string quoted => isText_text quoted
  | _, _, .array inside =>
    have opens : IsText [Bytes.ascii '['] := ⟨"[", rfl⟩
    (opens.append (isText_writtenItems inside)).append ⟨"]", rfl⟩
  | _, _, .object inside =>
    have opens : IsText [Bytes.ascii '\x7b'] := ⟨"\x7b", rfl⟩
    (opens.append (isText_writtenMembers inside)).append ⟨"\x7d", rfl⟩

theorem isText_spaced : ∀ {value octets}, Spaced value octets → IsText octets
  | _, _, .intro blankBefore written blankAfter =>
    ((isText_blank blankBefore).append (isText_written written)).append (isText_blank blankAfter)

theorem isText_writtenItems : ∀ {items octets}, WrittenItems items octets → IsText octets
  | _, _, .empty blank => isText_blank blank
  | _, _, .last spaced => isText_spaced spaced
  | _, _, .more spaced later =>
    have comma : IsText [Bytes.ascii ','] := ⟨",", rfl⟩
    (isText_spaced spaced).append (comma.append (isText_writtenItems later))

theorem isText_writtenMember :
    ∀ {name value octets}, WrittenMember name value octets → IsText octets
  | _, _, _, .intro blankBefore quoted blankAfter spaced =>
    have colon : IsText [Bytes.ascii ':'] := ⟨":", rfl⟩
    (((isText_blank blankBefore).append (isText_text quoted)).append
      (isText_blank blankAfter)).append (colon.append (isText_spaced spaced))

theorem isText_writtenMembers :
    ∀ {members octets}, WrittenMembers members octets → IsText octets
  | _, _, .empty blank => isText_blank blank
  | _, _, .last member => isText_writtenMember member
  | _, _, .more member later =>
    have comma : IsText [Bytes.ascii ','] := ⟨",", rfl⟩
    (isText_writtenMember member).append (comma.append (isText_writtenMembers later))

end

end Telemetry.Json
