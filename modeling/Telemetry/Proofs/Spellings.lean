import Telemetry.Proofs.Envelopes
import Telemetry.Proofs.Rounding
/-!
The many documents of one envelope. What an object says of an envelope depends on its four members
alone (`Envelope.Holds`), however the object is spelled and whatever else is in it.
`Envelope.documents_restore` says that what was written is read back, that reading settles in one
round, and that two objects with the same members are read alike (`Envelope.SameMembers`).
-/

namespace Telemetry

namespace Json

/-- The values of all members of a name, in their order. -/
def valuesOf (name : String) (members : List (Option String × Json)) : List Json :=
  (members.filter fun member => member.1 == some name).map (·.2)

def isNull : Json → Bool
  | .null => true
  | _ => false

/-- The values of a member that may be `null` as well as missing. -/
def statedOf (name : String) (members : List (Option String × Json)) : List Json :=
  (valuesOf name members).filter fun value => !value.isNull

/-- A member that may be `null` or missing holds a value. -/
def States (read : Json → Option α) : Option α → List Json → Prop
  | none, values => values = [] ∨ values = [.null]
  | some stated, values => ∃ document, values = [document] ∧ read document = some stated

theorem member?_eq (name : String) (members : List (Option String × Json)) :
    member? name members =
      match valuesOf name members with
      | [] => some none
      | [value] => some (some value)
      | _ :: _ :: _ => none := by
  unfold member? valuesOf
  generalize members.filter (fun member => member.1 == some name) = among
  rcases among with _ | ⟨first, _ | ⟨next, rest⟩⟩ <;> rfl

theorem member?_of_repeated {name : String} {members : List (Option String × Json)}
    (repeated : 2 ≤ (valuesOf name members).length) : member? name members = none := by
  rw [member?_eq]
  generalize valuesOf name members = values at repeated
  rcases values with _ | ⟨first, _ | ⟨next, rest⟩⟩
  · cases repeated
  · exact absurd repeated (Nat.not_succ_le_self 1)
  · rfl

theorem required_text?_iff {name text : String} {members : List (Option String × Json)} :
    (member? name members).bind (required text?) = some text ↔
      valuesOf name members = [.string (some text)] := by
  rw [member?_eq]
  rcases valuesOf name members with _ | ⟨first, _ | ⟨next, rest⟩⟩
  · simp [required]
  · cases first <;> simp [required, text?]
  · simp

theorem optional_iff {read : Json → Option α} (noNull : read .null = none) {name : String}
    {members : List (Option String × Json)} {stated : Option α} :
    (member? name members).bind (optional read) = some stated ↔
      States read stated (valuesOf name members) := by
  rw [member?_eq]
  rcases valuesOf name members with _ | ⟨first, _ | ⟨next, rest⟩⟩
  · cases stated <;> simp [optional, States]
  · cases first <;> cases stated <;> simp [optional, States, noNull]
  · cases stated <;> simp [States]

/-- Of a member that is not repeated only what is not `null` counts. -/
theorem states_iff {read : Json → Option α} (noNull : read .null = none) {name : String}
    {members : List (Option String × Json)} (once : (valuesOf name members).length ≤ 1)
    {stated : Option α} :
    States read stated (valuesOf name members) ↔
      (statedOf name members).mapM read = some stated.toList := by
  unfold statedOf
  generalize valuesOf name members = values at once
  rcases values with _ | ⟨first, _ | ⟨next, rest⟩⟩
  · cases stated <;> simp [States]
  · cases first <;> cases stated <;>
      simp [States, isNull, noNull, Option.bind_eq_some_iff]
  · exact absurd once (by simp)

/-- A number that may be missing is finite if it is there. -/
theorem isFinite_of_optional {document : Option Json} {number : Option Binary64}
    (read : optional binary64? document = some number) :
    ∀ value ∈ number, value.isFinite = true := by
  intro value stated
  obtain rfl := Option.mem_def.mp stated
  unfold optional at read
  split at read
  · cases read
  · cases read
  · obtain ⟨found, made, same⟩ := Option.map_eq_some_iff.mp read
    cases same
    exact isFinite_of_binary64? made

end Json

namespace Envelope

open Json

/-- The members that an envelope is read from. -/
def memberNames : List String := ["id", "type", "value", "delta"]

/-- Every member has a name that can be read. -/
def IsNamed (members : List (Option String × Json)) : Prop :=
  ∀ member ∈ members, member.1.isSome = true

instance (members : List (Option String × Json)) : Decidable (IsNamed members) :=
  inferInstanceAs (Decidable (∀ member ∈ members, member.1.isSome = true))

/-- What an object has to be for an envelope to be read from it. -/
structure Holds (members : List (Option String × Json)) (envelope : Envelope) : Prop where
  named : IsNamed members
  name : valuesOf "id" members = [.string (some envelope.name)]
  kind : valuesOf "type" members = [.string (some envelope.kind)]
  value : States binary64? envelope.value (valuesOf "value" members)
  delta : States int64? envelope.delta (valuesOf "delta" members)

/-- Two objects with the same members of an envelope, each at most once. A value or a delta may be
`null` in one of them and missing in the other. -/
structure SameMembers (first second : List (Option String × Json)) : Prop where
  once : ∀ name ∈ memberNames,
    (valuesOf name first).length ≤ 1 ∧ (valuesOf name second).length ≤ 1
  texts : ∀ name ∈ ["id", "type"], valuesOf name first = valuesOf name second
  numbers : ∀ name ∈ ["value", "delta"], statedOf name first = statedOf name second

theorem ofJson?_object_iff {members : List (Option String × Json)} {envelope : Envelope} :
    ofJson? (.object members) = some envelope ↔
      IsNamed members ∧
        (member? "id" members).bind (required text?) = some envelope.name ∧
        (member? "type" members).bind (required text?) = some envelope.kind ∧
        (member? "value" members).bind (optional binary64?) = some envelope.value ∧
        (member? "delta" members).bind (optional int64?) = some envelope.delta := by
  have all : (members.all fun member => member.1.isSome) = true ↔ IsNamed members :=
    List.all_eq_true
  obtain ⟨name, kind, value, delta⟩ := envelope
  simp only [ofJson?, record?, Option.bind_eq_bind]
  rw [← all]
  split
  · rename_i named
    simp only [List.mapM_cons, List.mapM_nil]
    generalize member? "id" members = nameFound
    generalize member? "type" members = kindFound
    generalize member? "value" members = valueFound
    generalize member? "delta" members = deltaFound
    cases nameFound <;> cases kindFound <;> cases valueFound <;> cases deltaFound <;>
      simp [named, Option.bind_eq_some_iff]
  · rename_i unnamed
    simp [unnamed]

theorem ofJson?_object {members : List (Option String × Json)} {envelope : Envelope} :
    ofJson? (.object members) = some envelope ↔ Holds members envelope := by
  rw [ofJson?_object_iff, required_text?_iff, required_text?_iff, optional_iff rfl,
    optional_iff rfl]
  constructor
  · intro ⟨named, name, kind, value, delta⟩
    exact ⟨named, name, kind, value, delta⟩
  · intro holds
    exact ⟨holds.named, holds.name, holds.kind, holds.value, holds.delta⟩

theorem SameMembers.symm {first second : List (Option String × Json)}
    (same : SameMembers first second) : SameMembers second first where
  once := fun name known => (same.once name known).symm
  texts := fun name known => (same.texts name known).symm
  numbers := fun name known => (same.numbers name known).symm

theorem SameMembers.states {first second : List (Option String × Json)}
    (same : SameMembers first second) {read : Json → Option α} (noNull : read .null = none)
    {name : String} (known : name ∈ memberNames) (number : name ∈ ["value", "delta"])
    {stated : Option α} (states : States read stated (valuesOf name first)) :
    States read stated (valuesOf name second) := by
  have once := same.once name known
  rw [states_iff noNull once.1, same.numbers name number] at states
  exact (states_iff noNull once.2).mpr states

theorem Holds.transfer {first second : List (Option String × Json)} {envelope : Envelope}
    (holds : Holds first envelope) (same : SameMembers first second) (named : IsNamed second) :
    Holds second envelope where
  named := named
  name := (same.texts "id" (by decide)).symm.trans holds.name
  kind := (same.texts "type" (by decide)).symm.trans holds.kind
  value := same.states rfl (by decide) (by decide) holds.value
  delta := same.states rfl (by decide) (by decide) holds.delta

theorem ofJson?_of_repeated {members : List (Option String × Json)} {name : String}
    (known : name ∈ memberNames) (repeated : 2 ≤ (valuesOf name members).length) :
    ofJson? (.object members) = none := by
  have missing := member?_of_repeated repeated
  rw [Option.eq_none_iff_forall_not_mem]
  intro envelope read
  obtain ⟨_named, id, kind, value, delta⟩ := ofJson?_object_iff.mp read
  simp only [memberNames, List.mem_cons, List.not_mem_nil, or_false] at known
  rcases known with rfl | rfl | rfl | rfl
  · rw [missing] at id
    cases id
  · rw [missing] at kind
    cases kind
  · rw [missing] at value
    cases value
  · rw [missing] at delta
    cases delta

/-- What was read from a document is finite, be it from an object or from an array. -/
theorem isFinite_of_ofJson? {document : Json} {envelope : Envelope}
    (read : ofJson? document = some envelope) :
    ∀ value ∈ envelope.value, value.isFinite = true := by
  obtain ⟨values, _record, read⟩ := Option.bind_eq_some_iff.mp read
  split at read
  · obtain ⟨name, _name, read⟩ := Option.bind_eq_some_iff.mp read
    obtain ⟨kind, _kind, read⟩ := Option.bind_eq_some_iff.mp read
    obtain ⟨value, stated, read⟩ := Option.bind_eq_some_iff.mp read
    obtain ⟨delta, _delta, read⟩ := Option.bind_eq_some_iff.mp read
    cases read
    exact isFinite_of_optional stated
  · cases read

theorem isFinite_of_readMany? {text : Bytes} {envelopes : List Envelope}
    (read : readMany? text = some envelopes) :
    ∀ envelope ∈ envelopes, ∀ value ∈ envelope.value, value.isFinite = true := by
  intro envelope member
  obtain ⟨document, _spelled, read⟩ := Option.bind_eq_some_iff.mp read
  cases document with
  | array items =>
    obtain ⟨item, _inside, made⟩ := exists_of_mem_mapM read member
    exact isFinite_of_ofJson? made
  | _ => cases read

theorem read?_of_spaced {members : List (Option String × Json)} {text : Bytes}
    (spaced : Spaced (.object members) text) : read? text = ofJson? (.object members) := by
  rw [read?, spaced.read?, Option.bind_some]

theorem readMany?_writeMany_of_isFinite {envelopes : List Envelope}
    (finite : ∀ envelope ∈ envelopes, ∀ value ∈ envelope.value, value.isFinite = true)
    (reads : ∀ envelope ∈ envelopes, ∀ value ∈ envelope.value, value.ReadsBack) :
    readMany? (writeMany envelopes) = some envelopes := by
  have same : envelopes.map readBack = envelopes.map id :=
    List.map_congr_left fun envelope member => readBack_eq (finite envelope member)
  rw [readMany?_writeMany envelopes fun envelope member value stated _finite =>
    reads envelope member value stated, same, List.map_id]

/-- Envelopes whose values have numerals that are read as these values are what they were once they
have been documents. Every text of an object with the same members is read as the same envelope,
and a member that is repeated is refused. -/
theorem documents_restore :
    (∀ envelopes : List Envelope,
      (∀ envelope ∈ envelopes, ∀ value ∈ envelope.value,
        value.isFinite = true ∧ value.ReadsBack) →
      readMany? (writeMany envelopes) = some envelopes ∧
        ∀ envelope ∈ envelopes, read? envelope.write = some envelope) ∧
    (∀ text envelopes, readMany? text = some envelopes →
      (∀ envelope ∈ envelopes, ∀ value ∈ envelope.value, value.ReadsBack) →
      readMany? (writeMany envelopes) = some envelopes ∧
        (readMany? (writeMany envelopes)).map writeMany = some (writeMany envelopes)) ∧
    (∀ members text, Spaced (.object members) text → ∀ envelope,
      read? text = some envelope ↔ Holds members envelope) ∧
    (∀ first second textFirst textSecond, Spaced (.object first) textFirst →
      Spaced (.object second) textSecond → IsNamed first → IsNamed second →
      SameMembers first second → read? textFirst = read? textSecond) ∧
    ∀ members text, Spaced (.object members) text →
      (∃ name ∈ memberNames, 2 ≤ (valuesOf name members).length) → read? text = none := by
  refine ⟨?_, ?_, ?_, ?_, ?_⟩
  · intro envelopes plain
    refine ⟨readMany?_writeMany_of_isFinite ?_ ?_, ?_⟩
    · intro envelope member value stated
      exact (plain envelope member value stated).1
    · intro envelope member value stated
      exact (plain envelope member value stated).2
    · intro envelope member
      rw [read?_write envelope fun value stated _finite => (plain envelope member value stated).2,
        readBack_eq fun value stated => (plain envelope member value stated).1]
  · intro text envelopes read reads
    have again := readMany?_writeMany_of_isFinite (isFinite_of_readMany? read) reads
    rw [again]
    exact ⟨rfl, rfl⟩
  · intro members text spaced envelope
    rw [read?_of_spaced spaced]
    exact ofJson?_object
  -- Either both are refused or both are read, since each reading can be carried over.
  · intro first second textFirst textSecond spacedFirst spacedSecond namedFirst namedSecond same
    rw [read?_of_spaced spacedFirst, read?_of_spaced spacedSecond]
    apply Option.ext
    intro envelope
    constructor
    · intro read
      exact ofJson?_object.mpr ((ofJson?_object.mp read).transfer same namedSecond)
    · intro read
      exact ofJson?_object.mpr ((ofJson?_object.mp read).transfer same.symm namedFirst)
  · intro members text spaced ⟨name, known, repeated⟩
    rw [read?_of_spaced spaced]
    exact ofJson?_of_repeated known repeated

/-- Their names need escapes or are empty, and their numbers are inexact or as small as can be. -/
def oddEnvelopes : List Envelope :=
  [⟨"Größe \"\x01\n", "gauge", some ⟨0x3FB999999999999A⟩, none⟩,
    ⟨"", "counter", none, some Int64.minValue⟩]

def plainMembers : List (Option String × Json) :=
  [(some "id", .ofText "Hits"), (some "type", .ofText "counter"), (some "delta", .ofInt64 (-7))]

/-- The same members in another order, with one more, and with `null` for what was missing. -/
def otherMembers : List (Option String × Json) :=
  [(some "delta", .ofInt64 (-7)), (some "unit", .array [.null, .object []]),
    (some "value", .null), (some "type", .ofText "counter"), (some "id", .ofText "Hits")]

theorem documents_restore_oddEnvelopes :
    (readMany? (writeMany oddEnvelopes) = some oddEnvelopes ∧
      ∀ envelope ∈ oddEnvelopes, read? envelope.write = some envelope) ∧
    (readMany? (manyToJson oddEnvelopes).pretty = some oddEnvelopes ∧
      (readMany? (writeMany oddEnvelopes)).map writeMany = some (writeMany oddEnvelopes)) ∧
    read? (Json.object plainMembers).compact = some ⟨"Hits", "counter", none, some (-7)⟩ ∧
    read? (Json.object otherMembers).pretty = read? (Json.object plainMembers).compact ∧
    read? (Json.object (plainMembers ++ plainMembers)).compact = none := by
  have plain : ∀ envelope ∈ oddEnvelopes, ∀ value ∈ envelope.value,
      value.isFinite = true ∧ value.ReadsBack := by
    unfold Binary64.ReadsBack
    decide +kernel
  have leads := Numeral.leads_ofInt (-7 : Int64).toInt
  have compact : Spaced (.object plainMembers) (Json.object plainMembers).compact := by
    apply Written.spaced
    apply written_compact
    exact ⟨rfl, rfl, rfl, rfl, rfl, leads, trivial⟩
  have pretty : Spaced (.object otherMembers) (Json.object otherMembers).pretty := by
    apply Written.spaced
    apply written_pretty
    exact ⟨rfl, leads, rfl, ⟨trivial, trivial, trivial⟩, rfl, trivial, rfl, rfl, rfl, rfl, trivial⟩
  have twice : Spaced (.object (plainMembers ++ plainMembers))
      (Json.object (plainMembers ++ plainMembers)).compact := by
    apply Written.spaced
    apply written_compact
    exact ⟨rfl, rfl, rfl, rfl, rfl, leads, rfl, rfl, rfl, rfl, rfl, leads, trivial⟩
  have holds : Holds plainMembers ⟨"Hits", "counter", none, some (-7)⟩ := by
    refine ⟨?_, rfl, rfl, .inl rfl, _, rfl, Numeral.toInt64?_ofInt (-7)⟩
    decide
  have same : SameMembers otherMembers plainMembers := by
    refine ⟨by decide, ?_, ?_⟩
    · simp only [List.forall_mem_cons]
      exact ⟨rfl, rfl, nofun⟩
    · simp only [List.forall_mem_cons]
      exact ⟨rfl, rfl, nofun⟩
  obtain ⟨restores, settles, reads, alike, refuses⟩ := documents_restore
  have restored := restores oddEnvelopes plain
  have spread : readMany? (manyToJson oddEnvelopes).pretty = some oddEnvelopes := by
    rw [← restored.1, readMany?, readMany?, writeMany,
      Json.read?_pretty _ (writable_manyToJson _), Json.read?_compact _ (writable_manyToJson _)]
  have settled := settles _ oddEnvelopes spread fun envelope member value stated =>
    (plain envelope member value stated).2
  refine ⟨restored, ⟨spread, settled.2⟩, ?_, ?_, ?_⟩
  · exact (reads _ _ compact _).mpr holds
  · exact alike _ _ _ _ pretty compact (by decide) holds.named same
  · exact refuses _ _ twice ⟨"id", by decide, by decide⟩

end Envelope

end Telemetry
