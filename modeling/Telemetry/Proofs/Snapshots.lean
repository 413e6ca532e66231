import Telemetry.Proofs.Envelopes
import Telemetry.Proofs.Merging
/-!
What a store in memory was saved as is restored, with each level as its numeral is read
(`MemoryStore.ofFile_write_of_isReadable`). So it is restored as the same store if the levels are
finite numbers whose numerals are read as themselves (`MemoryStore.ReadsBack`), and saved again as
the same octets (`MemoryStore.restore_save`). The names may be any texts, and the totals any
numbers.
-/

namespace Telemetry

open Json

namespace Binary64

/-- A number that a document holds without a loss. -/
def IsKept (number : Binary64) : Prop := number.isFinite = true ∧ number.ReadsBack

/-- A number that is written as a numeral which can be read. -/
def IsReadable (number : Binary64) : Prop :=
  (Json.binary64? (Json.ofBinary64 number)).isSome = true

/-- A number as a document gives it back. -/
def readBack (number : Binary64) : Binary64 :=
  (Json.binary64? (Json.ofBinary64 number)).getD number

variable {number : Binary64}

theorem IsReadable.binary64? (readable : number.IsReadable) :
    Json.binary64? (Json.ofBinary64 number) = some number.readBack := by
  obtain ⟨found, read⟩ := Option.isSome_iff_exists.mp readable
  rw [readBack, read]
  rfl

theorem IsKept.binary64? (kept : number.IsKept) :
    Json.binary64? (Json.ofBinary64 number) = some number := by
  rw [Json.ofBinary64, if_pos kept.1]
  exact kept.2

theorem IsKept.isReadable (kept : number.IsKept) : number.IsReadable := by
  rw [IsReadable, kept.binary64?]
  rfl

theorem IsKept.readBack_eq (kept : number.IsKept) : number.readBack = number := by
  rw [readBack, kept.binary64?]
  rfl

end Binary64

theorem Json.int64?_ofInt64 (value : Int64) : int64? (ofInt64 value) = some value :=
  Numeral.toInt64?_ofInt value

/-! ### Documents of snapshots -/

namespace SnapshotEntry

variable {α : Type} {write : α → Json} {read : Json → Option α}

/-- An entry with its value changed. -/
def change (back : α → α) (entry : SnapshotEntry α) : SnapshotEntry α :=
  { entry with value := back entry.value }

theorem kind?_word (kind : Kind) : kind? (Json.ofText kind.word) = some kind :=
  Kind.ofWord?_word kind

theorem ofJson?_toJson {entry : SnapshotEntry α} {back : α → α}
    (reads : read (write entry.value) = some (back entry.value)) :
    ofJson? read (entry.toJson write) = some (entry.change back) := by
  obtain ⟨name, kind, value⟩ := entry
  have members : Json.record? ["name", "type", "value"] (toJson write ⟨name, kind, value⟩) =
      some [some (Json.ofText name), some (Json.ofText kind.word), some (write value)] := rfl
  simp only [ofJson?, members, Option.bind_eq_bind, Option.bind_some, Json.required, kind?_word,
    reads]
  rfl

theorem writable_toJson {entry : SnapshotEntry α} (writable : Writable (write entry.value)) :
    Writable (entry.toJson write) :=
  ⟨rfl, rfl, rfl, rfl, rfl, writable, trivial⟩

end SnapshotEntry

namespace Snapshot

section Sections

variable {α : Type} {write : α → Json} {read : Json → Option α}

theorem writable_sectionToJson (entries : NameMap (SnapshotEntry α))
    (writable : ∀ value, Writable (write value)) : Writable (sectionToJson write entries) := by
  obtain ⟨list, ordered⟩ := entries
  change WritableMembers ((list.map fun entry =>
    (entry.1, entry.2.toJson write)).map fun member => (some member.1, member.2))
  clear ordered
  induction list with
  | nil => trivial
  | cons entry rest ih =>
    exact ⟨rfl, SnapshotEntry.writable_toJson (writable entry.2.value), ih⟩

theorem read_sectionToJson (back : α → α) (entries : NameMap (SnapshotEntry α))
    (reads : ∀ entry ∈ entries.entries, read (write entry.2.value) = some (back entry.2.value)) :
    Snapshot.section? read (some (sectionToJson write entries)) =
      some (entries.map fun _name entry => entry.change back) := by
  have members : ∀ list : List (String × SnapshotEntry α),
      (∀ entry ∈ list, read (write entry.2.value) = some (back entry.2.value)) →
      ((list.map fun entry => (some entry.1, entry.2.toJson write)).mapM
        fun (member : Option String × Json) => do
          let name ← member.1
          let entry ← SnapshotEntry.ofJson? read member.2
          return (name, entry)) =
        some (list.map fun entry => (entry.1, entry.2.change back)) := by
    intro list reads
    induction list with
    | nil => rfl
    | cons entry rest ih =>
      have first := SnapshotEntry.ofJson?_toJson (reads entry List.mem_cons_self)
      have others := ih fun later member => reads later (List.mem_cons_of_mem _ member)
      rw [List.map_cons, List.mapM_cons, others]
      simp only [first]
      rfl
  have whole : section? read (some (sectionToJson write entries)) =
      (some (entries.map fun _name entry => entry.change back).entries).map NameMap.ofList := by
    refine Eq.trans ?_ (congrArg (Option.map NameMap.ofList) (members entries.entries reads))
    simp only [sectionToJson, Json.ofMembers, section?, List.map_map]
    rfl
  rw [whole, Option.map_some, NameMap.ofList_entries]

end Sections

theorem writable_toJson (snapshot : Snapshot) : Writable snapshot.toJson :=
  ⟨rfl, writable_sectionToJson _ Envelope.writable_ofBinary64, rfl,
    writable_sectionToJson _ fun _value => Numeral.leads_ofInt _, trivial⟩

/-- A snapshot with its levels as a document gives them back. -/
def readBack (snapshot : Snapshot) : Snapshot :=
  { snapshot with
    gauges := snapshot.gauges.map fun _name entry => entry.change Binary64.readBack }

theorem read?_write {snapshot : Snapshot}
    (readable : ∀ entry ∈ snapshot.gauges.entries, entry.2.value.IsReadable) :
    read? snapshot.write = some snapshot.readBack := by
  have gauges : Snapshot.section? binary64?
      (some (sectionToJson Json.ofBinary64 snapshot.gauges)) = some snapshot.readBack.gauges :=
    read_sectionToJson Binary64.readBack snapshot.gauges fun entry member =>
      (readable entry member).binary64?
  have counters : Snapshot.section? int64?
      (some (sectionToJson Json.ofInt64 snapshot.counters)) = some snapshot.counters := by
    rw [read_sectionToJson id snapshot.counters fun entry _member => int64?_ofInt64 entry.2.value]
    exact congrArg some (NameMap.map_eq_self fun _entry _member => rfl)
  have members : Json.record? ["gauges", "counters"] snapshot.toJson =
      some [some (sectionToJson Json.ofBinary64 snapshot.gauges),
        some (sectionToJson Json.ofInt64 snapshot.counters)] := rfl
  rw [read?, write, read?_pretty _ (writable_toJson snapshot), Option.bind_some]
  simp only [ofJson?, members, Option.bind_eq_bind, Option.bind_some, gauges, counters]
  rfl

/-- A snapshot is written as a text, which does not begin with a blank. -/
theorem exists_write_eq (snapshot : Snapshot) :
    ∃ rest, Bytes.ofText ("\x7b" ++ rest) = snapshot.write := by
  have brace : Bytes.IsText [Bytes.ascii '\x7d'] := ⟨"\x7d", rfl⟩
  have document := written_pretty _ (writable_toJson snapshot)
  rw [write]
  generalize snapshot.toJson.pretty = octets at document
  cases document with
  | object inside =>
    obtain ⟨rest, written⟩ := (isText_writtenMembers inside).append brace
    exact ⟨rest, by rw [Bytes.ofText_append, written]; rfl⟩

end Snapshot

/-! ### Stores -/

namespace MemoryStore

/-- No level is an infinity or no number at all. -/
def IsFinite (store : MemoryStore) : Prop :=
  ∀ entry ∈ store.gauges.entries, entry.2.isFinite = true

def ReadsBack (store : MemoryStore) : Prop := ∀ entry ∈ store.gauges.entries, entry.2.IsKept

/-- A store with its levels as a document gives them back. -/
def readBack (store : MemoryStore) : MemoryStore :=
  { store with gauges := store.gauges.map fun _name level => level.readBack }

theorem ReadsBack.readBack_eq {store : MemoryStore} (kept : store.ReadsBack) :
    store.readBack = store := by
  have gauges : (store.gauges.map fun _name level => level.readBack) = store.gauges :=
    NameMap.map_eq_self fun entry member => (kept entry member).readBack_eq
  rw [readBack, gauges]

theorem readsBack_empty : empty.ReadsBack := nofun

theorem ReadsBack.merge {store : MemoryStore} (kept : store.ReadsBack) {metrics : List Metric}
    (levels : ∀ metric ∈ metrics, ∀ level, metric.sample = .gauge level → level.IsKept) :
    (store.merge metrics).ReadsBack := by
  induction metrics generalizing store with
  | nil => exact kept
  | cons metric rest ih =>
    obtain ⟨name, sample⟩ := metric
    have first : (store.update ⟨name, sample⟩).2.ReadsBack := by
      cases sample with
      | counter delta => exact kept
      | gauge level =>
        intro entry member
        rcases NameMap.mem_insertInto member with rfl | inside
        · exact levels _ List.mem_cons_self level rfl
        · exact kept entry inside
    exact ih first fun later member => levels later (List.mem_cons_of_mem _ member)

theorem sectionValues_map {α : Type} (kind : Kind) (values : NameMap α) :
    sectionValues kind (values.map fun name value => ⟨name, kind, value⟩) = .ok values := by
  have none_ : (values.map fun name value =>
      (⟨name, kind, value⟩ : SnapshotEntry α)).entries.find?
        (fun entry => entry.2.kind != kind) = none := by
    rw [List.find?_eq_none]
    intro entry member
    obtain ⟨source, _inside, rfl⟩ := List.mem_map.mp member
    simp
  have same : ((values.map fun name value =>
      (⟨name, kind, value⟩ : SnapshotEntry α)).map fun _name entry => entry.value) = values := by
    obtain ⟨entries, ordered⟩ := values
    simp [NameMap.map, Function.comp_def]
  unfold sectionValues
  rw [none_]
  exact congrArg Except.ok same

theorem ofSnapshot_snapshot (store : MemoryStore) : ofSnapshot store.snapshot = .ok store := by
  simp only [ofSnapshot, snapshot, sectionValues_map]
  rfl

theorem readBack_snapshot (store : MemoryStore) :
    store.snapshot.readBack = store.readBack.snapshot := by
  simp only [Snapshot.readBack, readBack, snapshot, NameMap.map_map]
  rfl

/-- A saved store is restored with its levels as they are read. -/
theorem ofFile_write_of_isReadable {store : MemoryStore}
    (readable : ∀ entry ∈ store.gauges.entries, entry.2.IsReadable) (path : String) :
    ofFile ⟨path, .content store.snapshot.write⟩ = .ok store.readBack := by
  obtain ⟨rest, written⟩ := Snapshot.exists_write_eq store.snapshot
  have text : Bytes.text? store.snapshot.write = some ("\x7b" ++ rest) := by
    rw [← written, Bytes.text?_ofText]
  have visible : Text.isBlankText ("\x7b" ++ rest) = false := by
    rw [Text.isBlankText, String.toList_append, List.all_append]
    rfl
  have read : Snapshot.read? store.snapshot.write = some store.readBack.snapshot := by
    rw [← readBack_snapshot]
    apply Snapshot.read?_write
    intro entry member
    obtain ⟨source, inside, rfl⟩ := List.mem_map.mp member
    exact readable source inside
  have found : SnapshotFile.read ⟨path, .content store.snapshot.write⟩ =
      .ok (some ("\x7b" ++ rest)) := by
    simp only [SnapshotFile.read, text]
  rw [ofFile, found]
  change ofText ("\x7b" ++ rest) = .ok store.readBack
  rw [ofText, visible, if_neg (by decide), written, read]
  exact ofSnapshot_snapshot store.readBack

/-- A saved store is restored as it was. -/
theorem ofFile_write {store : MemoryStore} (kept : store.ReadsBack) (path : String) :
    ofFile ⟨path, .content store.snapshot.write⟩ = .ok store := by
  rw [ofFile_write_of_isReadable (fun entry member => (kept entry member).isReadable) path,
    kept.readBack_eq]

/-- A store that is saved to a file is what every other store is restored to from that file, and
then saves the same octets again, there or anywhere else. -/
theorem restore_save (store : MemoryStore) (finite : store.IsFinite)
    (reads : ∀ entry ∈ store.gauges.entries, entry.2.ReadsBack)
    (file : SnapshotFile) (writable : file.isWritable = true) :
    ∃ saved octets, store.save file = .ok saved ∧ saved.octets? = some octets ∧
      ∀ other : MemoryStore, other.restore saved = (.ok (), store) ∧
        ∀ next : SnapshotFile, next.isWritable = true →
          ∃ again, (other.restore saved).2.save next = .ok again ∧
            again.octets? = some octets := by
  have kept : store.ReadsBack := fun entry member => ⟨finite entry member, reads entry member⟩
  refine ⟨_, store.snapshot.write, store.save_eq writable, rfl, ?_⟩
  intro other
  have restored : other.restore ⟨file.path, .content store.snapshot.write⟩ = (.ok (), store) := by
    rw [restore, ofFile_write kept file.path]
  refine ⟨restored, ?_⟩
  intro next nextWritable
  rw [restored]
  exact ⟨_, store.save_eq nextWritable, rfl⟩

/-- A store with odd names, one of them in both maps, and with totals and levels at the limits. -/
def oddStore : MemoryStore where
  gauges := .ofList [("", ⟨0x8000000000000000⟩), ("\"\\\x01\n", ⟨0x3FD5555555555555⟩),
    ("both", ⟨0x7FEFFFFFFFFFFFFF⟩), ("\u2028😀", ⟨1⟩)]
  counters := .ofList [("", 0), ("both", Int64.minValue), ("😀", Int64.maxValue)]

theorem restore_save_oddStore :
    ∃ saved, oddStore.save ⟨"metrics.json", .missing⟩ = .ok saved ∧
      empty.restore saved = (.ok (), oddStore) := by
  have finite : oddStore.IsFinite := by
    unfold IsFinite
    decide
  have reads : ∀ entry ∈ oddStore.gauges.entries, entry.2.ReadsBack := by
    unfold Binary64.ReadsBack
    decide +kernel
  obtain ⟨saved, _octets, written, _stored, restores⟩ :=
    restore_save oddStore finite reads ⟨"metrics.json", .missing⟩ rfl
  exact ⟨saved, written, (restores empty).1⟩

end MemoryStore

end Telemetry
