import Telemetry.Proofs.Refinement
/-!
Tables that other programs use as well. What a connection answers depends on the metrics that it
lists and on the rules for names, and on nothing else in the tables: a metric is entered into the
tables as it is entered into the listing (`TableStore.Sharing.upsert_listing`). So kinds that it
does not know, with their metrics, never show in an answer (`Write.answers_with_foreign`).

A kind that is known can be removed only when it has no metric. Then nothing can connect any more,
and a connection that is open takes no metric of it (`TableStore.Sound.removeKind?_cases`).
-/

namespace Telemetry

namespace TableStore

open Database (seededId)

/-! ### Rows and listings -/

/-- A connection to tables in which each metric that it knows has one row at most. There may be
other kinds, and metrics of them. -/
structure Sharing (store : TableStore) : Prop where
  isOpen : store.isOpen = true
  prepared : store.database.isPrepared = true
  numbered : ∀ kind, store.database.kindId? kind = some (store.kindId kind)
  apart : store.gaugeId ≠ store.counterId
  ids : (store.database.rows.map MetricRow.id).Nodup
  once : ∀ row ∈ store.database.rows, ∀ other ∈ store.database.rows,
    row.key = other.key → store.kindOf? row ≠ none → row = other

/-- The metric that a row stands for. -/
def reading? (store : TableStore) (row : MetricRow) : Option Metric :=
  (store.kindOf? row).map fun kind => ⟨row.name, sampleOf kind row.value⟩

/-- Merges a metric into a listing, as far as columns of numbers keep it. -/
def enter (refused : List String) (listed : List Metric) (metric : Metric) :
    Except StorageError (Metric × List Metric) :=
  match listed.find? (Metric.concerns metric.kind metric.name) with
  | some found =>
    match found.update metric with
    | .error error => .error (.metric error)
    | .ok merged =>
      match Database.kept? (columnOf merged.sample) with
      | none => .error (.table .missingValue)
      | some kept =>
        .ok (merged, listed.map fun other =>
          if other.concerns metric.kind metric.name then ⟨other.name, sampleOf metric.kind kept⟩
          else other)
  | none =>
    match Database.kept? (columnOf metric.sample) with
    | none => .error (.table .missingValue)
    | some kept =>
      if refused.contains metric.name then .error (.table .refusedRow)
      else .ok (metric, listed ++ [⟨metric.name, sampleOf metric.kind kept⟩])

variable {store : TableStore}

theorem Sound.sharing (sound : store.Sound) : store.Sharing where
  isOpen := sound.isOpen
  prepared := sound.orderly.prepared
  numbered := by
    intro kind
    rw [sound.kindId, Database.kindId?, sound.orderly.seeded]
    cases kind <;> decide
  apart := by
    have gauge : store.gaugeId = seededId .gauge := sound.kindId .gauge
    have counter : store.counterId = seededId .counter := sound.kindId .counter
    rw [gauge, counter]
    decide
  ids := sound.orderly.ids
  once := fun _row member _other inside same _known =>
    List.inj_on_of_nodup_map sound.orderly.keys member inside same

theorem Sharing.whenOpen (sharing : store.Sharing) {α : Type}
    (operation : Except StorageError α) : store.whenOpen operation = operation :=
  if_pos sharing.isOpen

theorem Sharing.connected (sharing : store.Sharing) : connect store.database = .ok store := by
  have prepared : store.database.prepare = store.database := if_pos sharing.prepared
  simp only [connect, prepared, sharing.numbered, kindId, ← sharing.isOpen]

theorem Sharing.kindOf?_eq_some_iff (sharing : store.Sharing) (row : MetricRow) (kind : Kind) :
    store.kindOf? row = some kind ↔ row.kindId = store.kindId kind := by
  have apart := sharing.apart
  rw [kindOf?]
  cases kind <;> grind [kindId]

theorem Sharing.concerns_reading? (sharing : store.Sharing) (kind : Kind) (name : String)
    (row : MetricRow) :
    (store.reading? row).any (Metric.concerns kind name) =
      (row.name == name && row.kindId == store.kindId kind) := by
  rw [reading?, Bool.eq_iff_iff, Bool.and_eq_true, beq_iff_eq, beq_iff_eq]
  cases known : store.kindOf? row with
  | none =>
    have other : row.kindId ≠ store.kindId kind := by
      intro same
      rw [(sharing.kindOf?_eq_some_iff row kind).mpr same] at known
      cases known
    simp [other]
  | some found =>
    have numbered := (sharing.kindOf?_eq_some_iff row found).mp known
    rw [Option.map_some, Option.any_some, Metric.concerns_eq_true, Metric.kind, kind_sampleOf,
      ← sharing.kindOf?_eq_some_iff, known, Option.some_inj, And.comm]

/-- A row is found by what it stands for in the listing. -/
theorem Sharing.find?_listing (sharing : store.Sharing) (kind : Kind) (name : String) :
    store.listing.find? (Metric.concerns kind name) =
      (store.database.find? name (store.kindId kind)).map fun row =>
        ⟨row.name, sampleOf kind row.value⟩ := by
  have read : store.listing = store.database.rows.filterMap store.reading? := rfl
  rw [read, List.find?_filterMap]
  simp only [sharing.concerns_reading?]
  change (store.database.find? name (store.kindId kind)).bind store.reading? = _
  cases found : store.database.find? name (store.kindId kind) with
  | none => rfl
  | some row =>
    have numbered := congrArg Prod.snd (Database.mem_of_find? found).2
    rw [Option.bind_some, reading?, (sharing.kindOf?_eq_some_iff row kind).mpr numbered]
    rfl

theorem Sharing.get_eq (sharing : store.Sharing) (kind : Kind) (name : String) :
    store.get kind name =
      match store.listing.find? (Metric.concerns kind name) with
      | some metric => .ok metric
      | none => .error (.notFound kind name) := by
  rw [get, sharing.whenOpen, sharing.find?_listing]
  cases store.database.find? name (store.kindId kind) <;> rfl

theorem Sharing.list_eq (sharing : store.Sharing) : store.list = .ok store.listing :=
  sharing.whenOpen _

/-! ### Other rows -/

theorem kindOf?_congr (store : TableStore) {row other : MetricRow} (same : row.key = other.key) :
    store.kindOf? row = store.kindOf? other := by
  rw [kindOf?, kindOf?, (Prod.mk.inj same).2]

/-- The connection with other rows in the table of metrics. -/
def withRows (store : TableStore) (rows : List MetricRow) : TableStore :=
  { store with database := { store.database with rows } }

theorem Sharing.withRows_set (sharing : store.Sharing) (id : Nat) (value : Binary64) :
    (store.withRows (store.database.rows.map (MetricRow.set id value))).Sharing where
  isOpen := sharing.isOpen
  prepared := sharing.prepared
  numbered := sharing.numbered
  apart := sharing.apart
  ids := (MetricRow.map_id_set id value store.database.rows).symm ▸ sharing.ids
  once := by
    intro row member other inside same known
    obtain ⟨before, memberBefore, rfl⟩ := List.mem_map.mp member
    obtain ⟨otherBefore, insideBefore, rfl⟩ := List.mem_map.mp inside
    have unchanged := before.key_set id value
    rw [unchanged, otherBefore.key_set] at same
    have knownBefore : store.kindOf? before ≠ none := by
      rw [← store.kindOf?_congr unchanged]
      exact known
    rw [sharing.once before memberBefore otherBefore insideBefore same knownBefore]

theorem Sharing.withRows_append (sharing : store.Sharing) {row : MetricRow}
    (fresh : row.id = store.database.nextRowId)
    (new : store.kindOf? row ≠ none → ∀ other ∈ store.database.rows, other.key ≠ row.key) :
    (store.withRows (store.database.rows ++ [row])).Sharing where
  isOpen := sharing.isOpen
  prepared := sharing.prepared
  numbered := sharing.numbered
  apart := sharing.apart
  ids := Database.nodup_ids_append sharing.ids fresh
  once := by
    intro first member second inside same known
    have knownSecond : store.kindOf? second ≠ none := by
      rw [← store.kindOf?_congr same]
      exact known
    rcases List.mem_append.mp member with old | last
    · rcases List.mem_append.mp inside with older | latest
      · exact sharing.once first old second older same known
      · obtain rfl := List.mem_singleton.mp latest
        exact absurd same (new knownSecond first old)
    · obtain rfl := List.mem_singleton.mp last
      rcases List.mem_append.mp inside with older | latest
      · exact absurd same.symm (new known second older)
      · exact (List.mem_singleton.mp latest).symm

theorem Sharing.listing_set (sharing : store.Sharing) {kind : Kind} {name : String}
    {row : MetricRow} (found : store.database.find? name (store.kindId kind) = some row)
    (value : Binary64) :
    (store.withRows (store.database.rows.map (MetricRow.set row.id value))).listing =
      store.listing.map fun other =>
        if other.concerns kind name then ⟨other.name, sampleOf kind value⟩ else other := by
  obtain ⟨inside, key⟩ := Database.mem_of_find? found
  change (store.database.rows.map (MetricRow.set row.id value)).filterMap store.reading? =
    (store.database.rows.filterMap store.reading?).map _
  rw [List.filterMap_map, List.map_filterMap]
  refine List.filterMap_congr fun other member => ?_
  have concerned := sharing.concerns_reading? kind name other
  rw [Function.comp_apply, reading?, store.kindOf?_congr (other.key_set row.id value),
    MetricRow.name_set, MetricRow.value_set]
  rw [reading?] at concerned ⊢
  cases known : store.kindOf? other with
  | none => rfl
  | some stated =>
    rw [known] at concerned
    simp only [Option.map_some, Option.any_some] at concerned ⊢
    rw [concerned]
    by_cases same : other.id = row.id
    · obtain rfl := List.inj_on_of_nodup_map sharing.ids member inside same
      obtain ⟨named, numbered⟩ := Prod.mk.inj key
      rw [(sharing.kindOf?_eq_some_iff other kind).mpr numbered] at known
      obtain rfl := Option.some.inj known
      simp [named, numbered]
    · have differs : ¬(other.name = name ∧ other.kindId = store.kindId kind) := by
        rintro ⟨named, numbered⟩
        have keyed : other.key = row.key := by
          rw [MetricRow.key, named, numbered, key]
        have stands : store.kindOf? other ≠ none := by
          rw [known]
          exact Option.some_ne_none stated
        have equal := sharing.once other member row inside keyed stands
        exact same (congrArg MetricRow.id equal)
      simp [same, differs]

theorem Sharing.listing_append (sharing : store.Sharing) {kind : Kind} (id : Nat) (name : String)
    (value : Binary64) :
    (store.withRows (store.database.rows ++ [⟨id, name, store.kindId kind, value⟩])).listing =
      store.listing ++ [⟨name, sampleOf kind value⟩] := by
  have read : store.reading? ⟨id, name, store.kindId kind, value⟩ =
      some ⟨name, sampleOf kind value⟩ := by
    rw [reading?, (sharing.kindOf?_eq_some_iff _ kind).mpr rfl, Option.map_some]
  change (store.database.rows ++ [_]).filterMap store.reading? = _
  rw [List.filterMap_append, List.filterMap_cons_some read, List.filterMap_nil]
  rfl

/-! ### Updates -/

/-- What comes of a metric that is merged into tables, which is what comes of it in the listing. -/
inductive Enters (store : TableStore) (metric : Metric) :
    Except StorageError (Metric × List Metric) → Prop
  | refused {error : StorageError} (failed : store.upsert metric = .error error) :
      Enters store metric (.error error)
  | entered {stored : Metric} {listed : List Metric} {next : TableStore}
      (done : store.upsert metric = .ok (stored, next)) (sharing : next.Sharing)
      (listing : next.listing = listed) (rules : next.database.refused = store.database.refused) :
      Enters store metric (.ok (stored, listed))

theorem Sharing.all_ne (sharing : store.Sharing) (kind : Kind) :
    (store.database.kinds.all fun row => row.id != store.kindId kind) = false := by
  obtain ⟨row, found, id⟩ := Option.map_eq_some_iff.mp (sharing.numbered kind)
  rw [List.all_eq_false]
  exact ⟨row, List.mem_of_find?_eq_some found, by simp [id]⟩

theorem Sharing.enters (sharing : store.Sharing) (metric : Metric) :
    store.Enters metric (enter store.database.refused store.listing metric) := by
  rw [enter, sharing.find?_listing]
  cases found : store.database.find? metric.name (store.kindId metric.kind) with
  | some row =>
    rw [Option.map_some]
    cases merging : Metric.update ⟨row.name, sampleOf metric.kind row.value⟩ metric with
    | error error =>
      have failed : store.upsert metric = .error (.metric error) := by
        simp only [upsert, found, merging]
      simp only [merging]
      exact .refused failed
    | ok merged =>
      cases column : Database.kept? (columnOf merged.sample) with
      | none =>
        have failed : store.upsert metric = .error (.table .missingValue) := by
          simp only [upsert, found, merging, Database.setValue, column, Except.map]
        simp only [merging, column]
        exact .refused failed
      | some kept =>
        have done : store.upsert metric =
            .ok (merged, store.withRows (store.database.rows.map (MetricRow.set row.id kept))) := by
          simp only [upsert, found, merging, Database.setValue, column]
          rfl
        simp only [merging, column]
        exact .entered done (sharing.withRows_set row.id kept) (sharing.listing_set found kept) rfl
  | none =>
    rw [Option.map_none]
    cases column : Database.kept? (columnOf metric.sample) with
    | none =>
      have failed : store.upsert metric = .error (.table .missingValue) := by
        simp only [upsert, found, Database.insertRow, column, Except.map]
      exact .refused failed
    | some kept =>
      cases ruled : store.database.refused.contains metric.name with
      | true =>
        have failed : store.upsert metric = .error (.table .refusedRow) := by
          simp only [upsert, found, Database.insertRow, column, ruled, if_true, Except.map]
        simp only [if_true]
        exact .refused failed
      | false =>
        have done : store.upsert metric = .ok (metric, store.withRows (store.database.rows ++
            [⟨store.database.nextRowId, metric.name, store.kindId metric.kind, kept⟩])) := by
          simp only [upsert, found, Database.insertRow, column, ruled, sharing.all_ne]
          rfl
        have new : (store.withRows (store.database.rows ++
            [⟨store.database.nextRowId, metric.name, store.kindId metric.kind, kept⟩])).Sharing :=
          sharing.withRows_append rfl fun _known => Database.key_ne_of_find? found
        simp only [Bool.false_eq_true, if_false]
        exact .entered done new (sharing.listing_append _ metric.name kept) rfl

/-! ### Connections that list the same -/

/-- Two connections that list the same metrics, under the same rules. -/
structure Alike (left right : TableStore) : Prop where
  first : left.Sharing
  second : right.Sharing
  listing : left.listing = right.listing
  refused : left.database.refused = right.database.refused

/-- Two connections of which none can tell that it is not the other. -/
structure Agree (left right : TableStore) : Prop where
  gets : ∀ kind name, left.get kind name = right.get kind name
  lists : left.list = right.list
  connected : connect left.database = .ok left ∧ connect right.database = .ok right

section Pairs

variable {left right : TableStore}

theorem Alike.agree (alike : Alike left right) : Agree left right where
  gets := by
    intro kind name
    rw [alike.first.get_eq, alike.second.get_eq, alike.listing]
  lists := by
    rw [alike.first.list_eq, alike.second.list_eq, alike.listing]
  connected := ⟨alike.first.connected, alike.second.connected⟩

theorem Sharing.alike (sharing : store.Sharing) : Alike store store :=
  ⟨sharing, sharing, rfl, rfl⟩

theorem Alike.upsert (alike : Alike left right) (metric : Metric) :
    (∃ error, left.upsert metric = .error error ∧ right.upsert metric = .error error) ∨
      ∃ stored leftNext rightNext, left.upsert metric = .ok (stored, leftNext) ∧
        right.upsert metric = .ok (stored, rightNext) ∧ Alike leftNext rightNext := by
  have first := alike.first.enters metric
  have second := alike.second.enters metric
  rw [alike.listing, alike.refused] at first
  generalize enter right.database.refused right.listing metric = outcome at first second
  cases first with
  | refused failed =>
    cases second with
    | refused alsoFailed => exact .inl ⟨_, failed, alsoFailed⟩
  | entered done sharing listing rules =>
    cases second with
    | entered alsoDone alsoSharing alsoListing alsoRules =>
      refine .inr ⟨_, _, _, done, alsoDone, sharing, alsoSharing, ?_, ?_⟩
      · rw [listing, alsoListing]
      · rw [rules, alsoRules, alike.refused]

theorem Alike.upsertAll (alike : Alike left right) (metrics : List Metric) :
    (∃ error, left.upsertAll metrics = .error error ∧ right.upsertAll metrics = .error error) ∨
      ∃ leftNext rightNext, left.upsertAll metrics = .ok leftNext ∧
        right.upsertAll metrics = .ok rightNext ∧ Alike leftNext rightNext := by
  induction metrics generalizing left right with
  | nil => exact .inr ⟨left, right, rfl, rfl, alike⟩
  | cons metric rest ih =>
    rw [TableStore.upsertAll, TableStore.upsertAll]
    rcases alike.upsert metric with
      ⟨error, failed, alsoFailed⟩ | ⟨stored, leftNext, rightNext, done, alsoDone, next⟩
    · rw [failed, alsoFailed]
      exact .inl ⟨error, rfl, rfl⟩
    · rw [done, alsoDone]
      exact ih next

theorem Alike.update (alike : Alike left right) (metric : Metric) :
    (left.update metric).1 = (right.update metric).1 ∧
      Alike (left.update metric).2 (right.update metric).2 := by
  rw [TableStore.update_eq, TableStore.update_eq, alike.first.whenOpen, alike.second.whenOpen]
  rcases alike.upsert metric with
    ⟨error, failed, alsoFailed⟩ | ⟨stored, leftNext, rightNext, done, alsoDone, next⟩
  · rw [failed, alsoFailed]
    exact ⟨rfl, alike⟩
  · rw [done, alsoDone]
    exact ⟨rfl, next⟩

theorem Alike.updateAll (alike : Alike left right) (metrics : List Metric) :
    (left.updateAll metrics).1 = (right.updateAll metrics).1 ∧
      Alike (left.updateAll metrics).2 (right.updateAll metrics).2 := by
  rw [TableStore.updateAll_eq, TableStore.updateAll_eq, alike.first.whenOpen, alike.second.whenOpen]
  rcases alike.upsertAll metrics with
    ⟨error, failed, alsoFailed⟩ | ⟨leftNext, rightNext, done, alsoDone, next⟩
  · rw [failed, alsoFailed]
    exact ⟨rfl, alike⟩
  · rw [done, alsoDone]
    exact ⟨rfl, next⟩

/-! ### Foreign kinds -/

/-- The connection after another program has added a kind of its own and a metric of it. -/
def addForeign (store : TableStore) (kind name : String) (value : Binary64) : TableStore :=
  { store with database := store.database.addForeign kind name value }

def withKind (store : TableStore) (row : KindRow) : TableStore :=
  { store with database := { store.database with kinds := store.database.kinds ++ [row] } }

theorem Sharing.withKind (sharing : store.Sharing) (row : KindRow) :
    (store.withKind row).Sharing where
  isOpen := sharing.isOpen
  prepared := sharing.prepared
  numbered := by
    intro kind
    obtain ⟨found, first, id⟩ := Option.map_eq_some_iff.mp (sharing.numbered kind)
    change ((store.database.kinds ++ [row]).find? _).map KindRow.id = _
    rw [List.find?_append, first, Option.some_or, Option.map_some, id]
    rfl
  apart := sharing.apart
  ids := sharing.ids
  once := sharing.once

/-- The number of a new kind is the number of none that the connection knows. -/
theorem Sharing.kindOf?_eq_none (sharing : store.Sharing) {row : MetricRow}
    (numbered : row.kindId = store.database.nextKindId) : store.kindOf? row = none := by
  cases known : store.kindOf? row with
  | none => rfl
  | some kind =>
    obtain ⟨found, first, id⟩ := Option.map_eq_some_iff.mp (sharing.numbered kind)
    have below := Database.lt_nextKindId (List.mem_of_find?_eq_some first)
    rw [← numbered, id, (sharing.kindOf?_eq_some_iff row kind).mp known] at below
    exact absurd below (Nat.lt_irrefl _)

theorem listing_append_of_unknown {row : MetricRow} (unknown : store.kindOf? row = none) :
    (store.withRows (store.database.rows ++ [row])).listing = store.listing := by
  have unread : store.reading? row = none := by
    rw [reading?, unknown, Option.map_none]
  change (store.database.rows ++ [row]).filterMap store.reading? = _
  rw [List.filterMap_append, List.filterMap_cons_none unread, List.filterMap_nil, List.append_nil]
  rfl

theorem Alike.addForeign (alike : Alike left right) (kind name : String) (value : Binary64) :
    Alike (left.addForeign kind name value) right := by
  have unknown : left.kindOf?
      ⟨left.database.nextRowId, name, left.database.nextKindId, value⟩ = none :=
    alike.first.kindOf?_eq_none rfl
  have widened := alike.first.withKind ⟨left.database.nextKindId, kind⟩
  exact ⟨widened.withRows_append rfl fun known => absurd unknown known, alike.second,
    (listing_append_of_unknown unknown).trans alike.listing, alike.refused⟩

end Pairs

/-! ### Removed kinds -/

section Removed

variable {kind : Kind}

/-- An open connection to tables that have neither a kind nor metrics of it. -/
structure Lacks (store : TableStore) (kind : Kind) : Prop where
  isOpen : store.isOpen = true
  apart : store.gaugeId ≠ store.counterId
  unknown : (store.database.kinds.all fun row => row.id != store.kindId kind) = true
  unused : ∀ row ∈ store.database.rows, row.kindId ≠ store.kindId kind

/-- The connection after a kind has been removed. -/
def withoutKind (store : TableStore) (kind : Kind) : TableStore :=
  { store with database := { store.database with
      kinds := store.database.kinds.filter fun row => row.name != kind.word } }

/-- What is left of a connection when one of its kinds has been removed. -/
structure WithoutKind (store next : TableStore) (kind : Kind) : Prop where
  unconnected : connect next.database = .error (.table (.notSeeded kind))
  untaken : ∀ metric, metric.kind = kind →
    ∃ fault, next.update metric = (.error (.table fault), next)
  untakenAmong : ∀ metrics, (∃ metric ∈ metrics, metric.kind = kind) →
    ∃ error, next.updateAll metrics = (.error error, next)
  lists : next.list = store.list

theorem Lacks.upsert_fails (lacks : store.Lacks kind) {metric : Metric}
    (same : metric.kind = kind) : ∃ fault, store.upsert metric = .error (.table fault) := by
  have absent : store.database.find? metric.name (store.kindId metric.kind) = none := by
    refine List.find?_eq_none.mpr fun row member matching => ?_
    rw [Bool.and_eq_true, beq_iff_eq, beq_iff_eq, same] at matching
    exact lacks.unused row member matching.2
  have unknown := lacks.unknown
  rw [← same] at unknown
  rw [upsert, absent]
  simp only [Database.insertRow, unknown]
  cases Database.kept? (columnOf metric.sample) with
  | none => exact ⟨_, rfl⟩
  | some kept => cases store.database.refused.contains metric.name <;> exact ⟨_, rfl⟩

theorem kindId_ne (apart : store.gaugeId ≠ store.counterId) {kind other : Kind}
    (different : kind ≠ other) : store.kindId kind ≠ store.kindId other := by
  cases kind <;> cases other <;> grind [kindId]

theorem exists_withRows_of_upsert {metric stored : Metric} {next : TableStore}
    (done : store.upsert metric = .ok (stored, next)) :
    ∃ rows, next = store.withRows rows ∧ ∀ row ∈ rows, row.kindId = store.kindId metric.kind ∨
      ∃ old ∈ store.database.rows, row.kindId = old.kindId := by
  rw [upsert] at done
  cases found : store.database.find? metric.name (store.kindId metric.kind) with
  | some row =>
    simp only [found] at done
    cases merging : Metric.update ⟨row.name, sampleOf metric.kind row.value⟩ metric with
    | error error =>
      rw [merging] at done
      cases done
    | ok merged =>
      simp only [merging, Database.setValue] at done
      cases column : Database.kept? (columnOf merged.sample) with
      | none =>
        rw [column] at done
        cases done
      | some kept =>
        rw [column] at done
        cases done
        refine ⟨_, rfl, fun changed member => .inr ?_⟩
        obtain ⟨old, inside, rfl⟩ := List.mem_map.mp member
        exact ⟨old, inside, old.kindId_set row.id kept⟩
  | none =>
    simp only [found, Database.insertRow] at done
    cases column : Database.kept? (columnOf metric.sample) with
    | none =>
      rw [column] at done
      cases done
    | some kept =>
      simp only [column] at done
      split at done
      · cases done
      · split at done
        · cases done
        · cases done
          refine ⟨_, rfl, fun row member => ?_⟩
          rcases List.mem_append.mp member with old | new
          · exact .inr ⟨row, old, rfl⟩
          · rw [List.mem_singleton.mp new]
            exact .inl rfl

theorem Lacks.of_upsert (lacks : store.Lacks kind) {metric stored : Metric} {next : TableStore}
    (done : store.upsert metric = .ok (stored, next)) : next.Lacks kind := by
  have different : metric.kind ≠ kind := by
    intro same
    obtain ⟨fault, failed⟩ := lacks.upsert_fails same
    rw [failed] at done
    cases done
  obtain ⟨rows, rfl, known⟩ := exists_withRows_of_upsert done
  refine ⟨lacks.isOpen, lacks.apart, lacks.unknown, fun row member => ?_⟩
  rcases known row member with own | ⟨old, inside, same⟩
  · rw [own]
    exact kindId_ne lacks.apart different
  · rw [same]
    exact lacks.unused old inside

theorem Lacks.upsertAll_fails (lacks : store.Lacks kind) {metrics : List Metric}
    (some_ : ∃ metric ∈ metrics, metric.kind = kind) :
    ∃ error, store.upsertAll metrics = .error error := by
  induction metrics generalizing store with
  | nil =>
    obtain ⟨metric, member, _same⟩ := some_
    cases member
  | cons metric rest ih =>
    rw [upsertAll]
    cases done : store.upsert metric with
    | error error => exact ⟨error, rfl⟩
    | ok answer =>
      obtain ⟨other, member, same⟩ := some_
      rcases List.mem_cons.mp member with rfl | later
      · obtain ⟨fault, failed⟩ := lacks.upsert_fails same
        rw [failed] at done
        cases done
      · exact ih (lacks.of_upsert done) ⟨other, later, same⟩

theorem Lacks.update_fails (lacks : store.Lacks kind) {metric : Metric}
    (same : metric.kind = kind) :
    ∃ fault, store.update metric = (.error (.table fault), store) := by
  obtain ⟨fault, failed⟩ := lacks.upsert_fails same
  rw [TableStore.update_eq, whenOpen, if_pos lacks.isOpen, failed]
  exact ⟨fault, rfl⟩

theorem Lacks.updateAll_fails (lacks : store.Lacks kind) {metrics : List Metric}
    (some_ : ∃ metric ∈ metrics, metric.kind = kind) :
    ∃ error, store.updateAll metrics = (.error error, store) := by
  obtain ⟨error, failed⟩ := lacks.upsertAll_fails some_
  rw [TableStore.updateAll_eq, whenOpen, if_pos lacks.isOpen, failed]
  exact ⟨error, rfl⟩

theorem Sound.removeKind?_eq (sound : store.Sound) (kind : Kind) :
    store.database.removeKind? kind =
      if store.database.rows.any fun row => seededId kind == row.kindId then none
      else some (store.withoutKind kind).database := by
  have gone : (store.database.kinds.filter fun row => row.name == kind.word) =
      [⟨seededId kind, kind.word⟩] := by
    rw [sound.orderly.seeded]
    cases kind <;> decide
  rw [Database.removeKind?, gone]
  simp only [List.any_cons, List.any_nil, Bool.or_false]
  rfl

theorem Sound.kindId?_withoutKind (sound : store.Sound) (kind other : Kind) :
    (store.withoutKind kind).database.kindId? other =
      if other = kind then none else some (seededId other) := by
  change ((store.database.kinds.filter fun row => row.name != kind.word).find? fun row =>
    row.name == other.word).map KindRow.id = _
  rw [sound.orderly.seeded]
  cases kind <;> cases other <;> decide

theorem Sound.lacks_withoutKind (sound : store.Sound)
    (unused : ∀ row ∈ store.database.rows, row.kindId ≠ seededId kind) :
    (store.withoutKind kind).Lacks kind where
  isOpen := sound.isOpen
  apart := sound.sharing.apart
  unknown := by
    have unknown : ((Database.blank.prepare.kinds.filter fun row => row.name != kind.word).all
        fun row => row.id != seededId kind) = true := by
      cases kind <;> decide
    rw [← sound.orderly.seeded, ← sound.kindId] at unknown
    exact unknown
  unused := by
    rw [← sound.kindId] at unused
    exact unused

theorem Sound.withoutKind (sound : store.Sound)
    (unused : ∀ row ∈ store.database.rows, row.kindId ≠ seededId kind) :
    WithoutKind store (store.withoutKind kind) kind where
  unconnected := by
    have prepared : (store.withoutKind kind).database.prepare = (store.withoutKind kind).database :=
      if_pos sound.orderly.prepared
    rw [connect, prepared]
    simp only [sound.kindId?_withoutKind]
    cases kind <;> rfl
  untaken := fun _metric => (sound.lacks_withoutKind unused).update_fails
  untakenAmong := fun _metrics => (sound.lacks_withoutKind unused).updateAll_fails
  lists := rfl

/-- A kind can be removed if no metric of it is listed, and only then. -/
theorem Sound.removeKind?_cases (sound : store.Sound) (kind : Kind) :
    match store.database.removeKind? kind with
    | none => ∃ metric ∈ store.listing, metric.kind = kind
    | some database => (∀ metric ∈ store.listing, metric.kind ≠ kind) ∧
        WithoutKind store { store with database } kind := by
  rw [sound.removeKind?_eq]
  cases used : store.database.rows.any fun row => seededId kind == row.kindId with
  | true =>
    obtain ⟨row, member, numbered⟩ := List.any_eq_true.mp used
    have known : store.kindOf? row = some kind :=
      (sound.kindOf?_eq_some_iff row kind).mpr (beq_iff_eq.mp numbered).symm
    have read : store.reading? row = some ⟨row.name, sampleOf kind row.value⟩ := by
      rw [reading?, known, Option.map_some]
    exact ⟨_, List.mem_filterMap.mpr ⟨row, member, read⟩, kind_sampleOf kind row.value⟩
  | false =>
    have unused : ∀ row ∈ store.database.rows, row.kindId ≠ seededId kind := by
      intro row member same
      have differs := List.any_eq_false.mp used row member
      exact differs (beq_iff_eq.mpr same.symm)
    refine ⟨?_, sound.withoutKind unused⟩
    intro metric listed same
    obtain ⟨row, member, read⟩ := List.mem_filterMap.mp listed
    obtain ⟨found, known, rfl⟩ := Option.map_eq_some_iff.mp read
    rw [Metric.kind, kind_sampleOf] at same
    subst same
    exact unused row member ((sound.kindOf?_eq_some_iff row found).mp known)

end Removed

end TableStore

namespace Write

/-- What happens to a database that other programs use as well. -/
inductive Turn where
  | own (write : Write)
  /-- Another program adds a kind of its own and a metric of it. -/
  | foreign (kind name : String) (value : Binary64)

def Turn.write? : Turn → Option Write
  | .own write => some write
  | .foreign _ _ _ => none

/-- Does the writes among other things that happen, and gives all their answers. -/
def runShared (now : Nat) : List Turn → TableStore →
    List (Except StorageError (Option Metric)) × TableStore
  | [], store => ([], store)
  | .own write :: rest, store =>
    let (answer, next) := write.perform .table now store
    let (answers, last) := runShared now rest next
    (answer :: answers, last)
  | .foreign kind name value :: rest, store =>
    runShared now rest (store.addForeign kind name value)

open TableStore (Alike Agree)

variable {left right : TableStore}

theorem perform_alike (alike : Alike left right) (now : Nat) (write : Write) :
    (write.perform .table now left).1 = (write.perform .table now right).1 ∧
      Alike (write.perform .table now left).2 (write.perform .table now right).2 := by
  cases write with
  | one metric =>
    obtain ⟨answer, next⟩ := alike.update metric
    exact ⟨congrArg (Except.map some) answer, next⟩
  | all metrics =>
    obtain ⟨answer, next⟩ := alike.updateAll metrics
    exact ⟨congrArg (Except.map fun _ => none) answer, next⟩

theorem runShared_alike (alike : Alike left right) (now : Nat) (turns : List Turn) :
    (runShared now turns left).1 = (run .table now (turns.filterMap Turn.write?) right).1 ∧
      Alike (runShared now turns left).2
        (run .table now (turns.filterMap Turn.write?) right).2 := by
  induction turns generalizing left right with
  | nil => exact ⟨rfl, alike⟩
  | cons turn rest ih =>
    cases turn with
    | own write =>
      obtain ⟨answer, next⟩ := perform_alike alike now write
      obtain ⟨answers, last⟩ := ih next
      exact ⟨congrArg₂ List.cons answer answers, last⟩
    | foreign kind name value => exact ih (alike.addForeign kind name value)

/-- Kinds of other programs, whenever they are added, never show: every write is answered as if
there were none, and so is everything that is asked afterwards. -/
theorem answers_with_foreign {store : TableStore} (reached : store.Reached) (now : Nat)
    (turns : List Turn) :
    (runShared now turns store).1 = (run .table now (turns.filterMap Turn.write?) store).1 ∧
      Agree (runShared now turns store).2
        (run .table now (turns.filterMap Turn.write?) store).2 := by
  obtain ⟨answers, alike⟩ := runShared_alike reached.sound.sharing.alike now turns
  exact ⟨answers, alike.agree⟩

end Write
end Telemetry
