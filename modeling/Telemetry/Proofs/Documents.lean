import Telemetry.Json.Reader
import Telemetry.Proofs.Scanning
/-!
Every text of the grammar is read as the document it spells (`Spaced.read?`), and so what was
written is read back in either layout (`read?_compact`, `read?_pretty`). All texts of a document
are the same tokens (`tokensOf`), and the reader puts the tokens together again, whatever stack it
is in the middle of.
-/

namespace Telemetry.Json

mutual

def tokensOf : Json → List Token
  | .null => [.null]
  | .bool value => [.bool value]
  | .number numeral => [.number numeral]
  | .string text => [.string text]
  | .array items => .openArray :: itemTokens items ++ [.closeArray]
  | .object members => .openObject :: memberTokens members ++ [.closeObject]

def itemTokens : List Json → List Token
  | [] => []
  | [item] => tokensOf item
  | item :: next :: rest => tokensOf item ++ .comma :: itemTokens (next :: rest)

def memberTokens : List (Option String × Json) → List Token
  | [] => []
  | [(key, value)] => .string key :: .colon :: tokensOf value
  | (key, value) :: next :: rest =>
    .string key :: .colon :: tokensOf value ++ .comma :: memberTokens (next :: rest)

end

/-! ### Tokens -/

theorem closes_mark {octet : UInt8} {token : Token}
    (read : ∀ before, Scanner.begin? before octet = some ⟨.nothing, token :: before⟩) :
    Closes [octet] [token] :=
  fun before => scanFrom_cons [] (read before)

theorem closes_comma : Closes [Bytes.ascii ','] [.comma] := closes_mark fun _before => rfl

theorem closes_colon : Closes [Bytes.ascii ':'] [.colon] := closes_mark fun _before => rfl

theorem closes_blank {octets : Bytes} (blank : Blank octets) : Closes octets [] := by
  intro before
  induction octets with
  | nil => rfl
  | cons octet rest ih =>
    have skipped : Scanner.step ⟨.nothing, before⟩ octet = some ⟨.nothing, before⟩ := by
      have among := blank octet List.mem_cons_self
      simp only [List.mem_cons, List.not_mem_nil, or_false] at among
      rcases among with rfl | rfl | rfl | rfl <;> rfl
    rw [scanFrom_cons _ skipped]
    exact ih fun later member => blank later (List.mem_cons_of_mem _ member)

theorem Spells.append_blank {octets after : Bytes} {tokens : List Token}
    (spells : Spells octets tokens) (blank : Blank after) : Spells (octets ++ after) tokens := by
  cases after with
  | nil => rwa [List.append_nil]
  | cons octet rest =>
    have delimiter : Scanner.isDelimiter octet = true := by
      have among := blank octet List.mem_cons_self
      simp only [List.mem_cons, List.not_mem_nil, or_false] at among
      rcases among with rfl | rfl | rfl | rfl <;> decide
    have joined := spells.append delimiter (closes_blank blank).spells
    rwa [List.append_nil] at joined

/-- What stands between two brackets. -/
theorem Spells.enclosed {left right : UInt8} {first last : Token} {octets : Bytes}
    {tokens : List Token} (spells : Spells octets tokens) (opens : Closes [left] [first])
    (delimiter : Scanner.isDelimiter right = true) (ends : Closes [right] [last]) :
    Spells (left :: octets ++ [right]) (first :: tokens ++ [last]) :=
  opens.append_spells (spells.append_closes delimiter ends).spells

-- The recursion is on the derivation. Behind a value stands a comma, a bracket or a blank, none of
-- which a numeral could go on with.
mutual

theorem spells_written : ∀ {value octets}, Written value octets → Spells octets (tokensOf value)
  | _, _, .null => Closes.spells fun _before => rfl
  | _, _, .yes => Closes.spells fun _before => rfl
  | _, _, .no => Closes.spells fun _before => rfl
  | _, _, .number digits => spells_numeral digits
  | _, _, .string quoted => (closes_text quoted).spells
  | _, _, .array inside =>
    (spells_writtenItems inside).enclosed (closes_mark fun _before => rfl) (by decide)
      (closes_mark fun _before => rfl)
  | _, _, .object inside =>
    (spells_writtenMembers inside).enclosed (closes_mark fun _before => rfl) (by decide)
      (closes_mark fun _before => rfl)

theorem spells_spaced : ∀ {value octets}, Spaced value octets → Spells octets (tokensOf value)
  | _, _, .intro blankBefore written blankAfter =>
    ((closes_blank blankBefore).append_spells (spells_written written)).append_blank blankAfter

theorem spells_writtenItems :
    ∀ {items octets}, WrittenItems items octets → Spells octets (itemTokens items)
  | _, _, .empty blank => (closes_blank blank).spells
  | _, _, .last spaced => spells_spaced spaced
  | _, _, .more spaced later =>
    (spells_spaced spaced).append (by decide)
      (closes_comma.append_spells (spells_writtenItems later))

theorem spells_writtenMember :
    ∀ {name value octets}, WrittenMember name value octets →
      Spells octets (.string name :: .colon :: tokensOf value)
  | _, _, _, .intro blankBefore quoted blankAfter spaced =>
    (((closes_blank blankBefore).append (closes_text quoted)).append
      (closes_blank blankAfter)).append_spells (closes_colon.append_spells (spells_spaced spaced))

theorem spells_writtenMembers :
    ∀ {members octets}, WrittenMembers members octets → Spells octets (memberTokens members)
  | _, _, .empty blank => (closes_blank blank).spells
  | _, _, .last member => spells_writtenMember member
  | _, _, .more member later =>
    (spells_writtenMember member).append (by decide)
      (closes_comma.append_spells (spells_writtenMembers later))

end

/-! ### Reading -/

theorem parseFrom_cons {reader next : Reader} {token : Token} (rest : List Token)
    (read : reader.step token = some next) :
    parseFrom reader (token :: rest) = parseFrom next rest := by
  rw [parseFrom, List.foldlM_cons, read]
  rfl

/-- A value does not begin with the end of an array, and so may be the first item of one. -/
theorem tokensOf_eq_cons (value : Json) :
    ∃ first rest, tokensOf value = first :: rest ∧ first ≠ .closeArray := by
  cases value with
  | null => exact ⟨_, _, rfl, by decide⟩
  | bool value => exact ⟨_, _, rfl, nofun⟩
  | number numeral => exact ⟨_, _, rfl, nofun⟩
  | string text => exact ⟨_, _, rfl, nofun⟩
  | array items => exact ⟨_, _, rfl, by decide⟩
  | object members => exact ⟨_, _, rfl, by decide⟩

theorem parseFrom_firstItem (value : Json) (stack : List Frame) (rest : List Token) :
    parseFrom (.firstItem stack) (tokensOf value ++ rest) =
      parseFrom (.value (.array [] :: stack)) (tokensOf value ++ rest) := by
  obtain ⟨first, others, tokens, inside⟩ := tokensOf_eq_cons value
  rw [tokens, List.cons_append, parseFrom, parseFrom, List.foldlM_cons, List.foldlM_cons]
  congr 1
  cases first with
  | closeArray => exact absurd rfl inside
  | _ => rfl

theorem itemTokens_eq_append (item : Json) (others : List Json) :
    ∃ tail, itemTokens (item :: others) = tokensOf item ++ tail := by
  cases others with
  | nil => exact ⟨[], (List.append_nil _).symm⟩
  | cons next rest => exact ⟨_, rfl⟩

theorem memberTokens_eq_cons (key : Option String) (value : Json)
    (others : List (Option String × Json)) :
    ∃ tail, memberTokens ((key, value) :: others) = .string key :: tail := by
  cases others with
  | nil => exact ⟨_, rfl⟩
  | cons next rest => exact ⟨_, rfl⟩

mutual

theorem parseFrom_tokensOf : ∀ value stack rest,
    parseFrom (.value stack) (tokensOf value ++ rest) = parseFrom (.complete value stack) rest
  | .null, _, rest => parseFrom_cons rest rfl
  | .bool _, _, rest => parseFrom_cons rest rfl
  | .number _, _, rest => parseFrom_cons rest rfl
  | .string _, _, rest => parseFrom_cons rest rfl
  | .array [], _, rest => (parseFrom_cons _ rfl).trans (parseFrom_cons rest rfl)
  | .array (item :: others), stack, rest => by
    have items := parseFrom_itemTokens (item :: others) (List.cons_ne_nil _ _) [] stack rest
    obtain ⟨tail, split⟩ := itemTokens_eq_append item others
    rw [tokensOf, List.cons_append, List.cons_append, List.append_assoc, parseFrom_cons _ rfl]
    rw [split, List.append_assoc] at items ⊢
    rw [parseFrom_firstItem]
    exact items
  | .object [], _, rest => (parseFrom_cons _ rfl).trans (parseFrom_cons rest rfl)
  | .object ((key, value) :: others), stack, rest => by
    have members :=
      parseFrom_memberTokens ((key, value) :: others) (List.cons_ne_nil _ _) [] stack rest
    obtain ⟨tail, split⟩ := memberTokens_eq_cons key value others
    rw [tokensOf, List.cons_append, List.cons_append, List.append_assoc, parseFrom_cons _ rfl]
    rw [split, List.cons_append, parseFrom_cons _ rfl] at members ⊢
    exact members

theorem parseFrom_itemTokens : ∀ items, items ≠ [] → ∀ done stack rest,
    parseFrom (.value (.array done :: stack)) (itemTokens items ++ ([.closeArray] ++ rest)) =
      parseFrom (.complete (.array (done.reverse ++ items)) stack) rest
  | [], filled, _, _, _ => absurd rfl filled
  | [item], _, done, stack, rest => by
    rw [itemTokens, parseFrom_tokensOf item (.array done :: stack)]
    refine (parseFrom_cons rest rfl).trans ?_
    rw [List.reverse_cons]
  | item :: next :: others, _, done, stack, rest => by
    rw [itemTokens, List.append_assoc, List.cons_append,
      parseFrom_tokensOf item (.array done :: stack), parseFrom_cons _ rfl,
      parseFrom_itemTokens (next :: others) (List.cons_ne_nil _ _) (item :: done) stack rest,
      List.reverse_cons, List.append_assoc]
    rfl

theorem parseFrom_memberTokens : ∀ members, members ≠ [] → ∀ done stack rest,
    parseFrom (.key done stack) (memberTokens members ++ ([.closeObject] ++ rest)) =
      parseFrom (.complete (.object (done.reverse ++ members)) stack) rest
  | [], filled, _, _, _ => absurd rfl filled
  | [(key, value)], _, done, stack, rest => by
    rw [memberTokens, List.cons_append, List.cons_append, parseFrom_cons _ rfl,
      parseFrom_cons _ rfl, parseFrom_tokensOf value (.object done key :: stack)]
    refine (parseFrom_cons rest rfl).trans ?_
    rw [List.reverse_cons]
  | (key, value) :: next :: others, _, done, stack, rest => by
    rw [memberTokens, List.append_assoc, List.cons_append, List.cons_append,
      parseFrom_cons _ rfl, parseFrom_cons _ rfl,
      parseFrom_tokensOf value (.object done key :: stack)]
    have members := parseFrom_memberTokens (next :: others) (List.cons_ne_nil _ _)
      ((key, value) :: done) stack rest
    rw [List.reverse_cons, List.append_assoc] at members
    exact (parseFrom_cons _ rfl).trans members

end

theorem ofTokens?_tokensOf (value : Json) : ofTokens? (tokensOf value) = some value := by
  have parsed := parseFrom_tokensOf value [] []
  rw [List.append_nil] at parsed
  rw [ofTokens?, parsed]
  rfl

/-- Every text of a document is read as that document. -/
theorem Spaced.read? {document : Json} {octets : Bytes} (spaced : Spaced document octets) :
    read? octets = some document := by
  rw [Json.read?, (spells_spaced spaced).tokens?, Option.bind_some, ofTokens?_tokensOf]

theorem read?_compact (value : Json) (writable : Writable value) :
    read? (compact value) = some value :=
  (written_compact value writable).spaced.read?

theorem read?_pretty (value : Json) (writable : Writable value) :
    read? (pretty value) = some value :=
  (written_pretty value writable).spaced.read?

end Telemetry.Json
