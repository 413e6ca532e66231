import Telemetry.Store.Memory
/-!
What a snapshot file means. A document describes the store that has, under each key of a section,
the value of the last entry under that key (`Json.Describes`); a file means what its document
describes, and an empty store if there is nothing in it (`SnapshotFile.Means`). Restoring is all or
nothing: either the file means one store, and that is what every store is restored to, or there is
something wrong with the file, and every store stays as it is
(`MemoryStore.restore_all_or_nothing`).
-/

namespace Telemetry

/-! ### Sections of documents -/

/-- The value of the last member of a name. -/
def Json.last? (name : String) (members : List (Option String × Json)) : Option Json :=
  (members.reverse.find? fun member => member.1 == some name).map Prod.snd

theorem Json.last?_cons (name : String) (member : Option String × Json)
    (rest : List (Option String × Json)) :
    last? name (member :: rest) =
      (last? name rest).or (if member.1 = some name then some member.2 else none) := by
  rw [last?, List.reverse_cons, List.find?_append, List.find?_singleton, Option.map_or, last?]
  simp only [beq_iff_eq, apply_ite (Option.map Prod.snd), Option.map_some, Option.map_none]

theorem Json.mem_of_last? {name : String} {members : List (Option String × Json)} {document : Json}
    (last : last? name members = some document) : (some name, document) ∈ members := by
  obtain ⟨⟨key, value⟩, found, rfl⟩ := Option.map_eq_some_iff.mp last
  have matching := List.find?_some found
  obtain rfl : key = some name := beq_iff_eq.mp matching
  exact List.mem_reverse.mp (List.mem_of_find?_eq_some found)

namespace Snapshot

variable {α : Type} {read : Json → Option α}

/-- A member of a section that can be read: it has a key, and an entry under it. -/
def entryOf? (read : Json → Option α) (member : Option String × Json) :
    Option (String × SnapshotEntry α) := do
  let name ← member.1
  let entry ← SnapshotEntry.ofJson? read member.2
  return (name, entry)

theorem section?_object (members : List (Option String × Json)) :
    Snapshot.section? read (some (.object members)) =
      (members.mapM (entryOf? read)).map NameMap.ofList := rfl

theorem entryOf?_eq_some_iff {member : Option String × Json} {name : String}
    {entry : SnapshotEntry α} :
    entryOf? read member = some (name, entry) ↔
      member.1 = some name ∧ SnapshotEntry.ofJson? read member.2 = some entry := by
  constructor
  · intro found
    obtain ⟨key, keyed, found⟩ := Option.bind_eq_some_iff.mp found
    obtain ⟨stated, described, found⟩ := Option.bind_eq_some_iff.mp found
    cases found
    exact ⟨keyed, described⟩
  · rintro ⟨keyed, described⟩
    obtain ⟨key, document⟩ := member
    obtain rfl : key = some name := keyed
    exact Option.bind_eq_some_iff.mpr ⟨entry, described, rfl⟩

theorem isSome_of_mapM {members : List (Option String × Json)}
    {entries : List (String × SnapshotEntry α)}
    (traversed : members.mapM (entryOf? read) = some entries) :
    ∀ member ∈ members, (entryOf? read member).isSome = true := by
  induction members generalizing entries with
  | nil => exact nofun
  | cons member rest ih =>
    rw [List.mapM_cons] at traversed
    obtain ⟨entry, first, traversed⟩ := Option.bind_eq_some_iff.mp traversed
    obtain ⟨others, later, _traversed⟩ := Option.bind_eq_some_iff.mp traversed
    intro other inside
    rcases List.mem_cons.mp inside with rfl | inside
    · exact Option.isSome_of_eq_some first
    · exact ih later other inside

/-- The last entry of a name among those that were read is what the last member of that name was
read as. -/
theorem find?_of_mapM {members : List (Option String × Json)}
    {entries : List (String × SnapshotEntry α)}
    (traversed : members.mapM (entryOf? read) = some entries) (name : String) :
    (entries.reverse.find? fun entry => entry.1 == name).map Prod.snd =
      (Json.last? name members).bind (SnapshotEntry.ofJson? read) := by
  induction members generalizing entries with
  | nil =>
    cases traversed
    rfl
  | cons member rest ih =>
    rw [List.mapM_cons] at traversed
    obtain ⟨⟨key, entry⟩, first, traversed⟩ := Option.bind_eq_some_iff.mp traversed
    obtain ⟨others, later, traversed⟩ := Option.bind_eq_some_iff.mp traversed
    cases traversed
    obtain ⟨keyed, described⟩ := entryOf?_eq_some_iff.mp first
    rw [List.reverse_cons, List.find?_append, Option.map_or, ih later, Json.last?_cons, keyed]
    cases last : Json.last? name rest with
    | some document =>
      have readable := isSome_of_mapM later _ (Json.mem_of_last? last)
      obtain ⟨kept, keptRead⟩ := Option.isSome_iff_exists.mp readable
      have stated := (entryOf?_eq_some_iff.mp keptRead).2
      rw [Option.bind_some, Option.some_or, Option.bind_some, stated, Option.some_or]
    | none =>
      rw [Option.bind_none, Option.none_or, Option.none_or]
      by_cases same : key = name
      · rw [if_pos (congrArg some same), Option.bind_some, described, List.find?_cons,
          beq_iff_eq.mpr same]
        rfl
      · rw [if_neg fun equal => same (Option.some.inj equal), Option.bind_none, List.find?_cons,
          beq_eq_false_iff_ne.mpr same]
        rfl

theorem exists_of_mapM {members : List (Option String × Json)}
    (readable : ∀ member ∈ members, (entryOf? read member).isSome = true) :
    ∃ entries, members.mapM (entryOf? read) = some entries := by
  induction members with
  | nil => exact ⟨[], rfl⟩
  | cons member rest ih =>
    obtain ⟨entry, first⟩ := Option.isSome_iff_exists.mp (readable member List.mem_cons_self)
    obtain ⟨entries, later⟩ := ih fun other inside => readable other (List.mem_cons_of_mem _ inside)
    refine ⟨entry :: entries, ?_⟩
    rw [List.mapM_cons, first, later]
    rfl

/-- A section is read as the map of the last entries of its names if all of its members can be
read. -/
theorem section?_object_eq_some_iff {members : List (Option String × Json)}
    {entries : NameMap (SnapshotEntry α)} :
    Snapshot.section? read (some (.object members)) = some entries ↔
      (∀ member ∈ members, (entryOf? read member).isSome = true) ∧
        ∀ name, entries.find? name =
          (Json.last? name members).bind (SnapshotEntry.ofJson? read) := by
  rw [section?_object]
  constructor
  · intro found
    obtain ⟨list, traversed, rfl⟩ := Option.map_eq_some_iff.mp found
    refine ⟨isSome_of_mapM traversed, fun name => ?_⟩
    rw [NameMap.find?_ofList, find?_of_mapM traversed]
  · rintro ⟨readable, found⟩
    obtain ⟨list, traversed⟩ := exists_of_mapM readable
    rw [traversed, Option.map_some, Option.some.injEq]
    apply NameMap.ext_find?
    intro name
    rw [found, NameMap.find?_ofList, find?_of_mapM traversed]

/-- The members of a section of a document; a missing section has none. -/
def membersOf? : Option Json → Option (List (Option String × Json))
  | none => some []
  | some (.object members) => some members
  | some _ => none

theorem section?_eq (read : Json → Option α) (listed : Option Json) :
    Snapshot.section? read listed =
      (membersOf? listed).bind fun members => section? read (some (.object members)) := by
  cases listed with
  | none => rfl
  | some document => cases document <;> rfl

/-- What the members of a section of some kind give as values: of each name the last one decides. -/
structure Lists (read : Json → Option α) (kind : Kind) (members : List (Option String × Json))
    (values : NameMap α) : Prop where
  readable : ∀ member ∈ members, (entryOf? read member).isSome = true
  listed : ∀ name document, Json.last? name members = some document →
    ∃ stated value, SnapshotEntry.ofJson? read document = some ⟨stated, kind, value⟩ ∧
      values.find? name = some value
  unlisted : ∀ name, Json.last? name members = none → values.find? name = none

end Snapshot

namespace MemoryStore

variable {α : Type} {kind : Kind} {entries : NameMap (SnapshotEntry α)}

theorem sectionValues_eq_ok_iff {values : NameMap α} :
    sectionValues kind entries = .ok values ↔
      (∀ name entry, entries.find? name = some entry → entry.kind = kind) ∧
        ∀ name, values.find? name = (entries.find? name).map SnapshotEntry.value := by
  have mapped : ∀ name, (entries.map fun _name entry => entry.value).find? name =
      (entries.find? name).map SnapshotEntry.value := NameMap.find?_map _ entries
  unfold sectionValues
  split
  · rename_i name entry found
    refine ⟨nofun, fun right => ?_⟩
    have inside := List.mem_of_find?_eq_some found
    have other := List.find?_some found
    exact absurd (right.1 name entry (entries.find?_eq_some_iff.mpr inside)) (bne_iff_ne.mp other)
  · rename_i none
    rw [Except.ok.injEq]
    constructor
    · rintro rfl
      refine ⟨fun name entry found => ?_, mapped⟩
      have same := List.find?_eq_none.mp none _ (entries.find?_eq_some_iff.mp found)
      exact Decidable.of_not_not fun differs => same (bne_iff_ne.mpr differs)
    · rintro ⟨_, found⟩
      exact NameMap.ext_find? fun name => (mapped name).trans (found name).symm

theorem exists_misplaced {error : StorageError}
    (failed : sectionValues kind entries = .error error) :
    ∃ name entry, entries.find? name = some entry ∧ entry.kind ≠ kind ∧
      error = .metric (.invalidKind (.misplaced entry.kind kind)) := by
  unfold sectionValues at failed
  split at failed
  · rename_i name entry found
    cases failed
    have other := List.find?_some found
    exact ⟨name, entry, entries.find?_eq_some_iff.mpr (List.mem_of_find?_eq_some found),
      bne_iff_ne.mp other, rfl⟩
  · cases failed

/-- The values of a section that has been read are the ones that its members list. -/
theorem lists_iff {read : Json → Option α} {members : List (Option String × Json)}
    {values : NameMap α} :
    Snapshot.Lists read kind members values ↔
      ∃ entries, Snapshot.section? read (some (.object members)) = some entries ∧
        sectionValues kind entries = .ok values := by
  constructor
  · intro lists
    obtain ⟨list, traversed⟩ := Snapshot.exists_of_mapM lists.readable
    have found : ∀ name, (NameMap.ofList list).find? name =
        (Json.last? name members).bind (SnapshotEntry.ofJson? read) := by
      intro name
      rw [NameMap.find?_ofList, Snapshot.find?_of_mapM traversed]
    refine ⟨NameMap.ofList list, Snapshot.section?_object_eq_some_iff.mpr ⟨lists.readable, found⟩,
      sectionValues_eq_ok_iff.mpr ⟨fun name entry kept => ?_, fun name => ?_⟩⟩
    · rw [found] at kept
      obtain ⟨document, last, read⟩ := Option.bind_eq_some_iff.mp kept
      obtain ⟨stated, value, described, _kept⟩ := lists.listed name document last
      cases read.symm.trans described
      rfl
    · rw [found]
      cases last : Json.last? name members with
      | none => exact lists.unlisted name last
      | some document =>
        obtain ⟨stated, value, described, kept⟩ := lists.listed name document last
        rw [kept, Option.bind_some, described]
        rfl
  · rintro ⟨entries, described, valued⟩
    obtain ⟨readable, found⟩ := Snapshot.section?_object_eq_some_iff.mp described
    obtain ⟨kinds, values⟩ := sectionValues_eq_ok_iff.mp valued
    refine ⟨readable, fun name document last => ?_, fun name last => ?_⟩
    · have inside := readable _ (Json.mem_of_last? last)
      obtain ⟨⟨key, entry⟩, keyed⟩ := Option.isSome_iff_exists.mp inside
      have stated : SnapshotEntry.ofJson? read document = some entry :=
        (Snapshot.entryOf?_eq_some_iff.mp keyed).2
      have kept : entries.find? name = some entry := by
        rw [found, last, Option.bind_some, stated]
      obtain rfl := kinds name entry kept
      refine ⟨entry.name, entry.value, stated, ?_⟩
      rw [values, kept, Option.map_some]
    · rw [values, found, last]
      rfl

end MemoryStore

/-! ### Documents and files -/

/-- The members of both sections of a document. -/
def Json.sections? (document : Json) :
    Option (List (Option String × Json) × List (Option String × Json)) := do
  match ← Json.record? ["gauges", "counters"] document with
  | [gauges, counters] =>
    return (← Snapshot.membersOf? gauges, ← Snapshot.membersOf? counters)
  | _ => none

/-- A document of which a store has the values, all of them and nothing else. -/
def Json.Describes (document : Json) (store : MemoryStore) : Prop :=
  ∃ gauges counters, document.sections? = some (gauges, counters) ∧
    Snapshot.Lists Json.binary64? .gauge gauges store.gauges ∧
    Snapshot.Lists Json.int64? .counter counters store.counters

/-- A document that is no snapshot: a section is missing its form, or a member cannot be read. -/
def Json.IsMalformed (document : Json) : Prop :=
  ∀ gauges counters, document.sections? = some (gauges, counters) →
    (∃ member ∈ gauges, Snapshot.entryOf? Json.binary64? member = none) ∨
      ∃ member ∈ counters, Snapshot.entryOf? Json.int64? member = none

/-- A section in which the last entry of some name states another kind. -/
def Snapshot.Misplaces (read : Json → Option α) (members : List (Option String × Json))
    (stated place : Kind) : Prop :=
  ∃ name document entry, Json.last? name members = some document ∧
    SnapshotEntry.ofJson? read document = some entry ∧ entry.kind = stated ∧ stated ≠ place

def Json.Misplaces (document : Json) (stated place : Kind) : Prop :=
  ∃ gauges counters, document.sections? = some (gauges, counters) ∧
    match place with
    | .gauge => Snapshot.Misplaces Json.binary64? gauges stated .gauge
    | .counter => Snapshot.Misplaces Json.int64? counters stated .counter

namespace SnapshotFile

/-- A text in the file that is more than blanks. -/
def HasText (file : SnapshotFile) (octets : Bytes) : Prop :=
  file.node = .content octets ∧ ∃ text, Bytes.text? octets = some text ∧
    Text.isBlankText text = false

/-- The store that a file means. -/
inductive Means (file : SnapshotFile) : MemoryStore → Prop
  | missing : file.node = .missing ∨ file.node = .nowhere → Means file .empty
  | blank {octets : Bytes} {text : String} : file.node = .content octets →
    Bytes.text? octets = some text → Text.isBlankText text = true → Means file .empty
  | document {octets : Bytes} {document : Json} {store : MemoryStore} : file.HasText octets →
    Json.read? octets = some document → document.Describes store → Means file store

/-- What can be wrong with a file, and the error for it. -/
inductive Spoils (file : SnapshotFile) : StorageError → Prop
  | directory : file.node = .directory → Spoils file (.fileUnavailable file.path .isDirectory)
  | notText {octets : Bytes} : file.node = .content octets → Bytes.text? octets = none →
    Spoils file (.fileUnavailable file.path .notText)
  | notJson {octets : Bytes} : file.HasText octets → Json.read? octets = none →
    Spoils file .malformedSnapshot
  | malformed {octets : Bytes} {document : Json} : file.HasText octets →
    Json.read? octets = some document → document.IsMalformed → Spoils file .malformedSnapshot
  | misplaced {octets : Bytes} {document : Json} {stated place : Kind} : file.HasText octets →
    Json.read? octets = some document → document.Misplaces stated place →
    Spoils file (.metric (.invalidKind (.misplaced stated place)))

end SnapshotFile

namespace Snapshot

theorem ofJson?_eq (document : Json) :
    ofJson? document = document.sections?.bind fun members =>
      (section? Json.binary64? (some (.object members.1))).bind fun gauges =>
        (section? Json.int64? (some (.object members.2))).map fun counters =>
          ⟨gauges, counters⟩ := by
  unfold ofJson? Json.sections?
  cases Json.record? ["gauges", "counters"] document with
  | none => rfl
  | some values =>
    match values with
    | [] | [_] | _ :: _ :: _ :: _ => rfl
    | [gauges, counters] =>
      simp only [Option.bind_eq_bind, Option.bind_some]
      rw [section?_eq _ gauges, section?_eq _ counters]
      cases membersOf? gauges with
      | none => rfl
      | some listed =>
        cases membersOf? counters with
        | none => simp only [Option.bind_none, Option.bind_some, Option.bind_fun_none]
        | some others =>
          simp only [Option.bind_some, Option.pure_def]
          cases section? Json.binary64? (some (.object listed)) with
          | none => rfl
          | some gauges => cases section? Json.int64? (some (.object others)) <;> rfl

theorem ofJson?_eq_some_iff {document : Json} {snapshot : Snapshot} :
    ofJson? document = some snapshot ↔
      ∃ gauges counters, document.sections? = some (gauges, counters) ∧
        Snapshot.section? Json.binary64? (some (.object gauges)) = some snapshot.gauges ∧
        Snapshot.section? Json.int64? (some (.object counters)) = some snapshot.counters := by
  rw [ofJson?_eq]
  constructor
  · intro found
    obtain ⟨⟨gauges, counters⟩, sections, found⟩ := Option.bind_eq_some_iff.mp found
    obtain ⟨levels, first, found⟩ := Option.bind_eq_some_iff.mp found
    obtain ⟨totals, second, rfl⟩ := Option.map_eq_some_iff.mp found
    exact ⟨gauges, counters, sections, first, second⟩
  · rintro ⟨gauges, counters, sections, first, second⟩
    rw [sections, Option.bind_some, first, Option.bind_some, second, Option.map_some]

theorem exists_unreadable {α : Type} {read : Json → Option α}
    {members : List (Option String × Json)}
    (failed : section? read (some (.object members)) = none) :
    ∃ member ∈ members, entryOf? read member = none := by
  apply Classical.byContradiction
  intro all
  have readable : ∀ member ∈ members, (entryOf? read member).isSome = true := fun member inside =>
    Option.isSome_iff_ne_none.mpr fun missing => all ⟨member, inside, missing⟩
  obtain ⟨entries, traversed⟩ := exists_of_mapM readable
  rw [section?_object, traversed] at failed
  cases failed

theorem isMalformed_of_ofJson? {document : Json} (failed : ofJson? document = none) :
    document.IsMalformed := by
  intro gauges counters sections
  rw [ofJson?_eq, sections, Option.bind_some] at failed
  cases first : section? Json.binary64? (some (.object gauges)) with
  | none => exact .inl (exists_unreadable first)
  | some levels =>
    rw [first, Option.bind_some, Option.map_eq_none_iff] at failed
    exact .inr (exists_unreadable failed)

theorem misplaces_of_sectionValues {α : Type} {read : Json → Option α} {kind : Kind}
    {members : List (Option String × Json)} {entries : NameMap (SnapshotEntry α)}
    {error : StorageError} (described : section? read (some (.object members)) = some entries)
    (failed : MemoryStore.sectionValues kind entries = .error error) :
    ∃ stated, Misplaces read members stated kind ∧
      error = .metric (.invalidKind (.misplaced stated kind)) := by
  obtain ⟨name, entry, found, other, rfl⟩ := MemoryStore.exists_misplaced failed
  rw [(section?_object_eq_some_iff.mp described).2] at found
  obtain ⟨document, last, stated⟩ := Option.bind_eq_some_iff.mp found
  exact ⟨entry.kind, ⟨name, document, entry, last, stated, rfl, other⟩, rfl⟩

end Snapshot

namespace MemoryStore

theorem ofSnapshot_eq_ok_iff {snapshot : Snapshot} {store : MemoryStore} :
    ofSnapshot snapshot = .ok store ↔
      sectionValues .gauge snapshot.gauges = .ok store.gauges ∧
        sectionValues .counter snapshot.counters = .ok store.counters := by
  unfold ofSnapshot
  cases sectionValues .gauge snapshot.gauges with
  | error error => exact ⟨nofun, fun both => nomatch both.1⟩
  | ok gauges =>
    cases sectionValues .counter snapshot.counters with
    | error error => exact ⟨nofun, fun both => nomatch both.2⟩
    | ok counters =>
      constructor
      · intro same
        cases same
        exact ⟨rfl, rfl⟩
      · rintro ⟨first, second⟩
        obtain ⟨levels, totals⟩ := store
        cases first
        cases second
        rfl

/-- A document describes the store that is read from it. -/
theorem describes_iff {document : Json} {store : MemoryStore} :
    document.Describes store ↔
      ∃ snapshot, Snapshot.ofJson? document = some snapshot ∧ ofSnapshot snapshot = .ok store := by
  constructor
  · rintro ⟨gauges, counters, sections, levels, totals⟩
    obtain ⟨first, described, valued⟩ := lists_iff.mp levels
    obtain ⟨second, stated, counted⟩ := lists_iff.mp totals
    exact ⟨⟨first, second⟩,
      Snapshot.ofJson?_eq_some_iff.mpr ⟨gauges, counters, sections, described, stated⟩,
      ofSnapshot_eq_ok_iff.mpr ⟨valued, counted⟩⟩
  · rintro ⟨snapshot, found, made⟩
    obtain ⟨gauges, counters, sections, described, stated⟩ :=
      Snapshot.ofJson?_eq_some_iff.mp found
    obtain ⟨valued, counted⟩ := ofSnapshot_eq_ok_iff.mp made
    exact ⟨gauges, counters, sections, lists_iff.mpr ⟨_, described, valued⟩,
      lists_iff.mpr ⟨_, stated, counted⟩⟩

theorem misplaces_of_ofSnapshot {document : Json} {snapshot : Snapshot} {error : StorageError}
    (found : Snapshot.ofJson? document = some snapshot)
    (failed : ofSnapshot snapshot = .error error) :
    ∃ stated place, document.Misplaces stated place ∧
      error = .metric (.invalidKind (.misplaced stated place)) := by
  obtain ⟨gauges, counters, sections, first, second⟩ := Snapshot.ofJson?_eq_some_iff.mp found
  unfold ofSnapshot at failed
  cases valued : sectionValues .gauge snapshot.gauges with
  | error fault =>
    obtain ⟨stated, misplaces, rfl⟩ := Snapshot.misplaces_of_sectionValues first valued
    rw [valued] at failed
    cases failed
    exact ⟨stated, .gauge, ⟨gauges, counters, sections, misplaces⟩, rfl⟩
  | ok levels =>
    rw [valued] at failed
    cases counted : sectionValues .counter snapshot.counters with
    | error fault =>
      obtain ⟨stated, misplaces, rfl⟩ := Snapshot.misplaces_of_sectionValues second counted
      rw [counted] at failed
      cases failed
      exact ⟨stated, .counter, ⟨gauges, counters, sections, misplaces⟩, rfl⟩
    | ok totals =>
      rw [counted] at failed
      cases failed

section Files

variable {file : SnapshotFile} {octets : Bytes} {text : String} {store : MemoryStore}

theorem ofFile_of_text (content : file.node = .content octets)
    (decoded : Bytes.text? octets = some text) : ofFile file = ofText text := by
  rw [ofFile, SnapshotFile.read, content]
  simp only [decoded]
  rfl

theorem ofFile_of_blank (content : file.node = .content octets)
    (decoded : Bytes.text? octets = some text) (blank : Text.isBlankText text = true) :
    ofFile file = .ok empty := by
  rw [ofFile_of_text content decoded, ofText, if_pos blank]

/-- What is made of a text that is more than blanks. -/
theorem ofFile_of_hasText (visible : file.HasText octets) :
    ofFile file = (Snapshot.read? octets).elim (.error .malformedSnapshot) ofSnapshot := by
  obtain ⟨content, text, decoded, inked⟩ := visible
  rw [ofFile_of_text content decoded, ofText, inked, if_neg Bool.false_ne_true,
    Bytes.ofText_of_text? decoded]
  cases Snapshot.read? octets <;> rfl

theorem ofFile_of_means (means : file.Means store) : ofFile file = .ok store := by
  cases means with
  | missing away =>
    rw [ofFile, SnapshotFile.read]
    rcases away with node | node <;> rw [node] <;> rfl
  | blank content decoded blank => exact ofFile_of_blank content decoded blank
  | document visible parsed describes =>
    obtain ⟨snapshot, found, made⟩ := describes_iff.mp describes
    rw [ofFile_of_hasText visible, Snapshot.read?, parsed, Option.bind_some, found]
    exact made

/-- A text that is more than blanks means a store, or there is something wrong with it. -/
theorem means_or_spoils_of_hasText (visible : file.HasText octets) :
    (∃ store, file.Means store) ∨ ∃ error, ofFile file = .error error ∧ file.Spoils error := by
  have made := ofFile_of_hasText visible
  rw [Snapshot.read?] at made
  cases parsed : Json.read? octets with
  | none =>
    rw [parsed] at made
    exact .inr ⟨_, made, .notJson visible parsed⟩
  | some document =>
    rw [parsed, Option.bind_some] at made
    cases found : Snapshot.ofJson? document with
    | none =>
      rw [found] at made
      exact .inr ⟨_, made, .malformed visible parsed (Snapshot.isMalformed_of_ofJson? found)⟩
    | some snapshot =>
      rw [found] at made
      cases done : ofSnapshot snapshot with
      | ok store =>
        exact .inl ⟨store, .document visible parsed (describes_iff.mpr ⟨snapshot, found, done⟩)⟩
      | error error =>
        obtain ⟨stated, place, misplaces, rfl⟩ := misplaces_of_ofSnapshot found done
        exact .inr ⟨_, made.trans done, .misplaced visible parsed misplaces⟩

theorem means_or_spoils (file : SnapshotFile) :
    (∃ store, file.Means store) ∨ ∃ error, ofFile file = .error error ∧ file.Spoils error := by
  cases node : file.node with
  | missing => exact .inl ⟨empty, .missing (.inl node)⟩
  | nowhere => exact .inl ⟨empty, .missing (.inr node)⟩
  | directory =>
    refine .inr ⟨_, ?_, .directory node⟩
    rw [ofFile, SnapshotFile.read, node]
    rfl
  | content octets =>
    cases decoded : Bytes.text? octets with
    | none =>
      refine .inr ⟨_, ?_, .notText node decoded⟩
      rw [ofFile, SnapshotFile.read, node]
      simp only [decoded]
      rfl
    | some text =>
      cases blank : Text.isBlankText text with
      | true => exact .inl ⟨empty, .blank node decoded blank⟩
      | false => exact means_or_spoils_of_hasText ⟨node, text, decoded, blank⟩

/-- A restore replaces everything by what the file means, or leaves everything as it is because the
file means no store. -/
theorem restore_all_or_nothing (file : SnapshotFile) :
    (∃ store, (∀ other, file.Means other ↔ other = store) ∧
        ∀ prior : MemoryStore, prior.restore file = (.ok (), store)) ∨
      ∃ error, (∀ store, ¬ file.Means store) ∧ file.Spoils error ∧
        ∀ prior : MemoryStore, prior.restore file = (.error error, prior) := by
  rcases means_or_spoils file with ⟨store, means⟩ | ⟨error, failed, spoils⟩
  · have made := ofFile_of_means means
    refine .inl ⟨store, fun other => ⟨fun also => ?_, fun same => same ▸ means⟩, fun prior => ?_⟩
    · exact Except.ok.inj ((ofFile_of_means also).symm.trans made)
    · rw [restore, made]
  · refine .inr ⟨error, fun store means => ?_, spoils, fun prior => ?_⟩
    · cases failed.symm.trans (ofFile_of_means means)
    · rw [restore, failed]

/-- A document whose last entry states the wrong kind, behind levels that could be restored. -/
def spoiltText : String :=
  "\x7b\"gauges\":\x7b\"a\":\x7b\"name\":\"z\",\"type\":\"gauge\",\"value\":1.5\x7d\x7d," ++
  "\"counters\":\x7b\"b\":\x7b\"name\":\"b\",\"type\":\"gauge\",\"value\":2\x7d\x7d\x7d"

example (prior : MemoryStore) :
    prior.restore ⟨"metrics", .content (Bytes.ofText spoiltText)⟩ =
      (.error (.metric (.invalidKind (.misplaced .gauge .counter))), prior) := rfl

end Files

end MemoryStore

end Telemetry
