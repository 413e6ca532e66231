import Mathlib.Data.List.Nodup
import Telemetry.Proofs.Aggregation
/-!
Stores in databases. No rule of the tables keeps a metric from having two rows; that it has one at
most is kept up by the updates, which look for the row before they write (`Database.Orderly`). So a
look-up and the listing agree on every connection that is ever reached from an empty database
(`TableStore.reached_consistent`). A batch is what its metrics come to one after another, or it is
an error and nothing (`TableStore.BatchOutcome`): its statements change a copy, so that a rollback
goes back to the tables as they were, however far they came (`TableStore.transact_error`).
-/

namespace Telemetry

/-- What no two rows of metrics have in common. -/
def MetricRow.key (row : MetricRow) : String × Nat := (row.name, row.kindId)

/-- The row with a value, if it is the one of a number. -/
def MetricRow.set (id : Nat) (value : Binary64) (row : MetricRow) : MetricRow :=
  if row.id = id then { row with value } else row

namespace Database

/-- The numbers under which the kinds are written into an empty database. -/
def seededId : Kind → Nat
  | .gauge => 1
  | .counter => 2

/-- Tables as the updates leave them: prepared, and with at most one row for a metric. -/
structure Orderly (database : Database) : Prop where
  prepared : database.isPrepared = true
  seeded : database.kinds = blank.prepare.kinds
  ids : (database.rows.map MetricRow.id).Nodup
  keys : (database.rows.map MetricRow.key).Nodup
  known : ∀ row ∈ database.rows, ∃ kind, row.kindId = seededId kind

/-- The value in the row of a name and a kind. -/
def value? (database : Database) (name : String) (kindId : Nat) : Option Binary64 :=
  (database.find? name kindId).map MetricRow.value

/-- The tables with a value in the row of a name and a kind, which is added if there is none. -/
def put (database : Database) (name : String) (kindId : Nat) (value : Binary64) : Database :=
  match database.find? name kindId with
  | some row => { database with rows := database.rows.map (MetricRow.set row.id value) }
  | none => { database with rows := database.rows ++ [⟨database.nextRowId, name, kindId, value⟩] }

end Database

theorem Database.seededId_inj {left right : Kind}
    (same : seededId left = seededId right) : left = right := by
  cases left <;> cases right <;> first | rfl | cases same

/-! ### Rows -/

section Rows

variable {database : Database} {name : String} {kindId : Nat} {row : MetricRow}

@[simp] theorem MetricRow.id_set (id : Nat) (value : Binary64) (row : MetricRow) :
    (row.set id value).id = row.id := by
  unfold set
  split <;> rfl

@[simp] theorem MetricRow.name_set (id : Nat) (value : Binary64) (row : MetricRow) :
    (row.set id value).name = row.name := by
  unfold set
  split <;> rfl

@[simp] theorem MetricRow.kindId_set (id : Nat) (value : Binary64) (row : MetricRow) :
    (row.set id value).kindId = row.kindId := by
  unfold set
  split <;> rfl

theorem MetricRow.key_set (id : Nat) (value : Binary64) (row : MetricRow) :
    (row.set id value).key = row.key := by
  rw [key, name_set, kindId_set, key]

theorem MetricRow.map_id_set (id : Nat) (value : Binary64) (rows : List MetricRow) :
    (rows.map (MetricRow.set id value)).map MetricRow.id = rows.map MetricRow.id := by
  rw [List.map_map]
  exact List.map_congr_left fun row _member => row.id_set id value

theorem MetricRow.value_set (id : Nat) (value : Binary64) (row : MetricRow) :
    (row.set id value).value = if row.id = id then value else row.value := by
  unfold set
  split <;> rfl

namespace Database

theorem mem_of_find? (found : database.find? name kindId = some row) :
    row ∈ database.rows ∧ row.key = (name, kindId) := by
  refine ⟨List.mem_of_find?_eq_some found, ?_⟩
  have matching := List.find?_some found
  simp only [Bool.and_eq_true, beq_iff_eq] at matching
  exact Prod.ext matching.1 matching.2

theorem key_ne_of_find? (absent : database.find? name kindId = none) :
    ∀ row ∈ database.rows, row.key ≠ (name, kindId) := by
  intro row member same
  have differs := List.find?_eq_none.mp absent row member
  obtain ⟨rfl, rfl⟩ := Prod.mk.inj same
  simp at differs

/-- A row is found by its key. -/
theorem Orderly.find?_eq_some_iff (orderly : database.Orderly) :
    database.find? name kindId = some row ↔
      row ∈ database.rows ∧ row.key = (name, kindId) := by
  constructor
  · exact mem_of_find?
  · rintro ⟨member, key⟩
    cases found : database.find? name kindId with
    | none => exact absurd key (key_ne_of_find? found row member)
    | some other =>
      obtain ⟨inside, same⟩ := mem_of_find? found
      rw [List.inj_on_of_nodup_map orderly.keys inside member (same.trans key.symm)]

/-- A number that is free in a table is above all that are in use. -/
theorem lt_foldl_next {ρ : Type} (number : ρ → Nat) {rows : List ρ} {row : ρ}
    (member : row ∈ rows) :
    number row < rows.foldl (fun next row => max next (number row + 1)) 1 := by
  -- The greatest number so far only grows, so the start has to be arbitrary.
  have bound : ∀ (rows : List ρ) (start : Nat),
      start ≤ rows.foldl (fun next row => max next (number row + 1)) start ∧
        ∀ row ∈ rows,
          number row < rows.foldl (fun next row => max next (number row + 1)) start := by
    intro rows
    induction rows with
    | nil => exact fun start => ⟨Nat.le_refl start, nofun⟩
    | cons first rest ih =>
      intro start
      obtain ⟨least, above⟩ := ih (max start (number first + 1))
      rw [List.foldl_cons]
      refine ⟨by omega, ?_⟩
      intro row member
      rcases List.mem_cons.mp member with rfl | later
      · omega
      · exact above row later
  exact (bound rows 1).2 row member

theorem lt_nextRowId (member : row ∈ database.rows) : row.id < database.nextRowId :=
  lt_foldl_next MetricRow.id member

/-- A new row gets a number of its own. -/
theorem nodup_ids_append (ids : (database.rows.map MetricRow.id).Nodup)
    (fresh : row.id = database.nextRowId) :
    ((database.rows ++ [row]).map MetricRow.id).Nodup := by
  rw [List.map_append, List.map_singleton]
  refine List.Nodup.append ids (List.nodup_singleton _) ?_
  intro id member last
  obtain ⟨other, inside, rfl⟩ := List.mem_map.mp member
  rw [List.mem_singleton, fresh] at last
  exact absurd last (Nat.ne_of_lt (lt_nextRowId inside))

theorem lt_nextKindId {kind : KindRow} (member : kind ∈ database.kinds) :
    kind.id < database.nextKindId :=
  lt_foldl_next KindRow.id member

end Database

end Rows

/-! ### Writing -/

namespace Database

section Writing

variable {database : Database} (orderly : database.Orderly) (name : String) (value : Binary64)

include orderly

omit orderly in
theorem refused_put (kindId : Nat) :
    (database.put name kindId value).refused = database.refused := by
  unfold put
  split <;> rfl

/-- Writing leaves every metric with one row. -/
theorem Orderly.put (kind : Kind) : (database.put name (seededId kind) value).Orderly := by
  unfold Database.put
  cases found : database.find? name (seededId kind) with
  | some row =>
    have ids := MetricRow.map_id_set row.id value database.rows
    have keys : (database.rows.map (MetricRow.set row.id value)).map MetricRow.key =
        database.rows.map MetricRow.key := by
      rw [List.map_map]
      exact List.map_congr_left fun other _member => other.key_set row.id value
    refine ⟨orderly.prepared, orderly.seeded, ids ▸ orderly.ids, keys ▸ orderly.keys, ?_⟩
    intro changed member
    obtain ⟨other, inside, rfl⟩ := List.mem_map.mp member
    rw [MetricRow.kindId_set]
    exact orderly.known other inside
  | none =>
    refine ⟨orderly.prepared, orderly.seeded, nodup_ids_append orderly.ids rfl, ?_, ?_⟩
    · rw [List.map_append, List.map_singleton]
      refine List.Nodup.append orderly.keys (List.nodup_singleton _) ?_
      intro key member last
      obtain ⟨row, inside, rfl⟩ := List.mem_map.mp member
      exact key_ne_of_find? found row inside (List.mem_singleton.mp last)
    · intro row member
      rcases List.mem_append.mp member with old | new
      · exact orderly.known row old
      · rw [List.mem_singleton.mp new]
        exact ⟨kind, rfl⟩

omit orderly in
theorem value?_append (id : Nat) (kindId : Nat) (other : String) (otherId : Nat) :
    Database.value? { database with rows := database.rows ++ [⟨id, name, kindId, value⟩] }
        other otherId =
      (database.value? other otherId).or
        (if (other, otherId) = (name, kindId) then some value else none) := by
  rw [value?, find?, List.find?_append, Option.map_or]
  congr 1
  by_cases same : (other, otherId) = (name, kindId)
  · obtain ⟨rfl, rfl⟩ := Prod.mk.inj same
    simp
  · have apart : (name == other && kindId == otherId) = false := by
      rw [Bool.and_eq_false_iff, beq_eq_false_iff_ne, beq_eq_false_iff_ne]
      by_cases named : name = other
      · exact .inr fun numbered => same (Prod.ext named.symm numbered.symm)
      · exact .inl named
    rw [if_neg same, List.find?_cons, apart]
    rfl

omit orderly in
theorem value?_set (id : Nat) (other : String) (otherId : Nat) :
    Database.value? { database with rows := database.rows.map (MetricRow.set id value) }
        other otherId =
      (database.find? other otherId).map fun row => if row.id = id then value else row.value := by
  have searched : (database.rows.map (MetricRow.set id value)).find?
        (fun row => row.name == other && row.kindId == otherId) =
      (database.find? other otherId).map (MetricRow.set id value) := by
    simp only [List.find?_map, Function.comp_def, MetricRow.name_set, MetricRow.kindId_set, find?]
  rw [value?, find?, searched, Option.map_map]
  exact Option.map_congr fun row _found => row.value_set id value

/-- Writing changes the value of one metric and of no other. -/
theorem Orderly.value?_put (kindId : Nat) (other : String) (otherId : Nat) :
    (database.put name kindId value).value? other otherId =
      if (other, otherId) = (name, kindId) then some value else database.value? other otherId := by
  unfold Database.put
  cases found : database.find? name kindId with
  | some row =>
    obtain ⟨inside, key⟩ := mem_of_find? found
    rw [value?_set]
    by_cases same : (other, otherId) = (name, kindId)
    · obtain ⟨rfl, rfl⟩ := Prod.mk.inj same
      rw [found, if_pos rfl, Option.map_some, if_pos rfl]
    · rw [if_neg same, value?]
      cases looked : database.find? other otherId with
      | none => rfl
      | some kept =>
        obtain ⟨member, keptKey⟩ := mem_of_find? looked
        have apart : kept.id ≠ row.id := by
          intro equal
          obtain rfl := List.inj_on_of_nodup_map orderly.ids member inside equal
          exact same (keptKey.symm.trans key)
        rw [Option.map_some, Option.map_some, if_neg apart]
  | none =>
    rw [value?_append]
    by_cases same : (other, otherId) = (name, kindId)
    · obtain ⟨rfl, rfl⟩ := Prod.mk.inj same
      rw [if_pos rfl, if_pos rfl, value?, found]
      rfl
    · rw [if_neg same, if_neg same, Option.or_none]

end Writing

end Database

/-! ### Transactions -/

namespace TableStore

variable {store next : TableStore} {metric stored : Metric}

/-- Merging changes nothing of a connection but its tables. -/
theorem eq_of_upsert (done : store.upsert metric = .ok (stored, next)) :
    { store with database := next.database } = next := by
  have wrote : ∀ (answer : Metric) (written : Except StorageError Database),
      written.map (fun database => (answer, { store with database })) = .ok (stored, next) →
        { store with database := next.database } = next := by
    intro answer written made
    cases written with
    | error error => cases made
    | ok database =>
      cases made
      rfl
  unfold upsert at done
  split at done
  · split at done
    · cases done
    · exact wrote _ _ done
  · exact wrote _ _ done

/-- The store after metrics that are merged one after another, or the first error. -/
def upsertAll (store : TableStore) : List Metric → Except StorageError TableStore
  | [] => .ok store
  | metric :: rest =>
    match store.upsert metric with
    | .ok (_, next) => next.upsertAll rest
    | .error error => .error error

end TableStore

namespace Transaction

variable (transaction : Transaction)

/-- A statement works on the copy, so that a rollback goes back to the same tables after it. -/
theorem rollback_upsert (metric : Metric) :
    (transaction.upsert metric).2.rollback = transaction.rollback := by
  rw [upsert]
  cases done : transaction.working.upsert metric with
  | error error => rfl
  | ok answer =>
    obtain ⟨stored, next⟩ := answer
    rw [rollback, rollback, ← TableStore.eq_of_upsert done]

theorem rollback_upsertAll (metrics : List Metric) :
    (transaction.upsertAll metrics).2.rollback = transaction.rollback := by
  induction metrics generalizing transaction with
  | nil => rfl
  | cons metric rest ih =>
    have first := transaction.rollback_upsert metric
    rw [upsertAll]
    cases done : transaction.upsert metric with
    | mk answer next =>
      rw [done] at first
      cases answer with
      | error error => exact first
      | ok stored => exact (ih next).trans first

theorem upsertAll_eq_ok {metrics : List Metric} {next : TableStore}
    (done : transaction.working.upsertAll metrics = .ok next) :
    transaction.upsertAll metrics = (.ok (), { transaction with working := next }) := by
  induction metrics generalizing transaction with
  | nil =>
    cases done
    rfl
  | cons metric rest ih =>
    rw [TableStore.upsertAll] at done
    rw [upsertAll, upsert]
    cases first : transaction.working.upsert metric with
    | error error =>
      rw [first] at done
      cases done
    | ok answer =>
      rw [first] at done
      exact ih { transaction with working := answer.2 } done

theorem upsertAll_eq_error {metrics : List Metric} {error : StorageError}
    (failed : transaction.working.upsertAll metrics = .error error) :
    (transaction.upsertAll metrics).1 = .error error := by
  induction metrics generalizing transaction with
  | nil => cases failed
  | cons metric rest ih =>
    rw [TableStore.upsertAll] at failed
    rw [upsertAll, upsert]
    cases first : transaction.working.upsert metric with
    | error other =>
      rw [first] at failed
      cases failed
      rfl
    | ok answer =>
      rw [first] at failed
      exact ih { transaction with working := answer.2 } failed

end Transaction

namespace TableStore

variable {α : Type} {store : TableStore}
  {statements : Transaction → Except StorageError α × Transaction}

theorem transact_closed (closed : store.isOpen = false) :
    store.transact statements = (.error (.connection "the pool is closed"), store) := by
  rw [transact, begin, whenOpen, if_neg (by rw [closed]; decide)]

theorem transact_ok (isOpen : store.isOpen = true) {answer : α} {next : TableStore}
    (worked : statements ⟨store.database, store⟩ = (.ok answer, ⟨store.database, next⟩)) :
    store.transact statements = (.ok answer, next) := by
  simp only [transact, begin, whenOpen, if_pos isOpen, worked, Transaction.commit]

/-- A transaction whose statements work on the copy alone changes nothing when it fails. -/
theorem transact_error (isOpen : store.isOpen = true) {error : StorageError}
    (kept : ∀ transaction, (statements transaction).2.rollback = transaction.rollback)
    (failed : (statements ⟨store.database, store⟩).1 = .error error) :
    store.transact statements = (.error error, store) := by
  have back := kept ⟨store.database, store⟩
  cases ended : statements ⟨store.database, store⟩ with
  | mk answer dropped =>
    rw [ended] at back failed
    obtain rfl : answer = .error error := failed
    simp only [transact, begin, whenOpen, if_pos isOpen, ended]
    exact congrArg _ back

theorem update_eq (store : TableStore) (metric : Metric) :
    store.update metric = match store.whenOpen (store.upsert metric) with
      | .ok (stored, next) => (.ok stored, next)
      | .error error => (.error error, store) := by
  cases isOpen : store.isOpen with
  | false =>
    rw [update, transact_closed isOpen, whenOpen, if_neg (by rw [isOpen]; decide)]
  | true =>
    rw [update, whenOpen, if_pos isOpen]
    cases done : store.upsert metric with
    | error error =>
      refine transact_error isOpen (fun begun => begun.rollback_upsert metric) ?_
      rw [Transaction.upsert, done]
    | ok answer =>
      refine transact_ok isOpen ?_
      rw [Transaction.upsert, done]

theorem updateAll_eq (store : TableStore) (metrics : List Metric) :
    store.updateAll metrics = match store.whenOpen (store.upsertAll metrics) with
      | .ok next => (.ok (), next)
      | .error error => (.error error, store) := by
  cases isOpen : store.isOpen with
  | false =>
    rw [updateAll, transact_closed isOpen, whenOpen, if_neg (by rw [isOpen]; decide)]
  | true =>
    rw [updateAll, whenOpen, if_pos isOpen]
    cases done : store.upsertAll metrics with
    | error error =>
      exact transact_error isOpen (fun begun => begun.rollback_upsertAll metrics)
        (Transaction.upsertAll_eq_error ⟨store.database, store⟩ done)
    | ok next =>
      refine transact_ok isOpen ?_
      exact Transaction.upsertAll_eq_ok ⟨store.database, store⟩ done

end TableStore

/-! ### Connections -/

namespace TableStore

/-- An open connection to tables in order, as connecting to them makes it. -/
structure Sound (store : TableStore) : Prop where
  orderly : store.database.Orderly
  connected : connect store.database = .ok store

open Database (seededId)

theorem connect_eq {database : Database} (orderly : database.Orderly) :
    connect database = .ok ⟨database, seededId .gauge, seededId .counter, true⟩ := by
  have prepared : database.prepare = database := if_pos orderly.prepared
  have gauge : database.kindId? .gauge = some (seededId .gauge) := by
    rw [Database.kindId?, orderly.seeded]
    decide
  have counter : database.kindId? .counter = some (seededId .counter) := by
    rw [Database.kindId?, orderly.seeded]
    decide
  simp only [connect, prepared, gauge, counter]

theorem orderly_prepare_blank : Database.blank.prepare.Orderly :=
  ⟨rfl, rfl, List.nodup_nil, List.nodup_nil, nofun⟩

/-- The first connection to an empty database. -/
theorem connect_blank :
    connect .blank = .ok ⟨Database.blank.prepare, seededId .gauge, seededId .counter, true⟩ :=
  connect_eq orderly_prepare_blank

variable {store : TableStore}

theorem Sound.eq (sound : store.Sound) :
    store = ⟨store.database, seededId .gauge, seededId .counter, true⟩ :=
  Except.ok.inj (sound.connected.symm.trans (connect_eq sound.orderly))

theorem Sound.isOpen (sound : store.Sound) : store.isOpen = true := by
  rw [sound.eq]

theorem Sound.kindId (sound : store.Sound) (kind : Kind) : store.kindId kind = seededId kind := by
  rw [sound.eq]
  cases kind <;> rfl

theorem Sound.whenOpen (sound : store.Sound) {α : Type} (operation : Except StorageError α) :
    store.whenOpen operation = operation :=
  if_pos sound.isOpen

theorem Sound.with_database (sound : store.Sound) {database : Database}
    (orderly : database.Orderly) : Sound { store with database } := by
  refine ⟨orderly, ?_⟩
  rw [sound.eq]
  exact connect_eq orderly

/-! ### Updates -/

/-- What is stored of a metric after it was merged into its row. -/
def merged (store : TableStore) (metric : Metric) : Metric :=
  match store.database.value? metric.name (store.kindId metric.kind), metric.sample with
  | some total, .counter delta => .counter metric.name (total.toInt64 + delta)
  | _, _ => metric

/-- Whether a rule refuses the row that a metric would need. -/
def refuses (store : TableStore) (metric : Metric) : Bool :=
  (store.database.value? metric.name (store.kindId metric.kind)).isNone &&
    store.database.refused.contains metric.name

theorem update_eq_merged {row : MetricRow} {metric : Metric}
    (found : store.database.find? metric.name (store.kindId metric.kind) = some row) :
    (Metric.mk row.name (sampleOf metric.kind row.value)).update metric =
      .ok (store.merged metric) := by
  have name : row.name = metric.name := congrArg Prod.fst (Database.mem_of_find? found).2
  obtain ⟨stated, sample⟩ := metric
  have value : store.database.value? stated (store.kindId sample.kind) = some row.value :=
    congrArg (Option.map MetricRow.value) found
  rw [Metric.update, if_pos name]
  simp only [merged, Metric.kind, value]
  obtain rfl : row.name = stated := name
  cases sample <;> rfl

/-- What an update does: it fails for a value that is none or for a refused row, or it puts what was
merged into the row of its metric. -/
theorem Sound.upsert_eq (sound : store.Sound) (metric : Metric) :
    store.upsert metric =
      match Database.kept? (columnOf (store.merged metric).sample) with
      | none => .error (.table .missingValue)
      | some kept =>
        if store.refuses metric then .error (.table .refusedRow)
        else .ok (store.merged metric, { store with
          database := store.database.put metric.name (seededId metric.kind) kept }) := by
  rw [← sound.kindId]
  cases found : store.database.find? metric.name (store.kindId metric.kind) with
  | some row =>
    have present : store.refuses metric = false := by
      rw [refuses, Database.value?, found]
      rfl
    simp only [upsert, found, update_eq_merged found, Database.setValue, present, Database.put]
    cases Database.kept? (columnOf (store.merged metric).sample) <;> rfl
  | none =>
    have absent : store.database.value? metric.name (store.kindId metric.kind) = none := by
      rw [Database.value?, found]
      rfl
    have same : store.merged metric = metric := by
      unfold merged
      rw [absent]
    have refused : store.refuses metric = store.database.refused.contains metric.name := by
      rw [refuses, absent]
      rfl
    have known : (store.database.kinds.all fun row => row.id != store.kindId metric.kind) =
        false := by
      rw [sound.orderly.seeded, sound.kindId]
      cases metric.kind <;> decide
    simp only [upsert, found, Database.insertRow, same, refused, known, Database.put]
    cases Database.kept? (columnOf metric.sample) with
    | none => rfl
    | some kept => cases store.database.refused.contains metric.name <;> rfl

theorem Sound.of_upsert (sound : store.Sound) {metric stored : Metric} {next : TableStore}
    (done : store.upsert metric = .ok (stored, next)) : next.Sound := by
  rw [sound.upsert_eq] at done
  split at done
  · cases done
  · split at done
    · cases done
    · cases done
      exact sound.with_database (sound.orderly.put _ _ _)

theorem Sound.update (sound : store.Sound) (metric : Metric) : (store.update metric).2.Sound := by
  rw [TableStore.update_eq, sound.whenOpen]
  cases done : store.upsert metric with
  | error error => exact sound
  | ok answer => exact sound.of_upsert done

theorem Sound.of_upsertAll {metrics : List Metric} {next : TableStore} (sound : store.Sound)
    (done : store.upsertAll metrics = .ok next) : next.Sound := by
  induction metrics generalizing store with
  | nil =>
    cases done
    exact sound
  | cons metric rest ih =>
    rw [upsertAll] at done
    cases first : store.upsert metric with
    | error error =>
      rw [first] at done
      cases done
    | ok answer =>
      rw [first] at done
      exact ih (sound.of_upsert first) done

theorem Sound.updateAll (sound : store.Sound) (metrics : List Metric) :
    (store.updateAll metrics).2.Sound := by
  rw [TableStore.updateAll_eq, sound.whenOpen]
  cases done : store.upsertAll metrics with
  | error error => exact sound
  | ok next => exact sound.of_upsertAll done

/-! ### Batches -/

/-- The store after metrics that were merged one after another, each on its own. -/
def after (store : TableStore) (metrics : List Metric) : TableStore :=
  metrics.foldl (fun store metric => (store.update metric).2) store

/-- The metrics are all taken when they are merged one after another. -/
def Takes (store : TableStore) (metrics : List Metric) : Prop :=
  ∀ before metric rest, metrics = before ++ metric :: rest →
    ∃ stored, ((store.after before).update metric).1 = .ok stored

/-- How a batch ends: as its metrics do one after another, or with the error of the first of them
that is not taken, and then nothing has changed. -/
inductive BatchOutcome (store : TableStore) (metrics : List Metric) : Prop
  | taken (takes : store.Takes metrics)
      (done : store.updateAll metrics = (.ok (), store.after metrics))
  | refused {before rest : List Metric} {metric : Metric} {error : StorageError}
      (split : metrics = before ++ metric :: rest) (takes : store.Takes before)
      (failed : ((store.after before).update metric).1 = .error error)
      (unchanged : store.updateAll metrics = (.error error, store))

theorem takes_nil (store : TableStore) : store.Takes [] := by
  intro before metric rest split
  exact absurd split.symm (List.append_ne_nil_of_right_ne_nil before (List.cons_ne_nil metric rest))

theorem Takes.cons {metric stored : Metric} {next : TableStore} {metrics : List Metric}
    (first : store.update metric = (.ok stored, next)) (takes : next.Takes metrics) :
    store.Takes (metric :: metrics) := by
  intro before other rest split
  cases before with
  | nil =>
    obtain ⟨rfl, rfl⟩ := List.cons.inj split
    exact ⟨stored, congrArg Prod.fst first⟩
  | cons head before =>
    obtain ⟨rfl, later⟩ := List.cons.inj split
    have same : store.after (metric :: before) = next.after before := by
      rw [after, List.foldl_cons, first]
      rfl
    rw [same]
    exact takes before other rest later

theorem Sound.update_ok (sound : store.Sound) {metric stored : Metric} {next : TableStore}
    (done : store.upsert metric = .ok (stored, next)) :
    store.update metric = (.ok stored, next) := by
  rw [TableStore.update_eq, sound.whenOpen, done]

theorem Sound.update_error (sound : store.Sound) {metric : Metric} {error : StorageError}
    (failed : store.upsert metric = .error error) :
    store.update metric = (.error error, store) := by
  rw [TableStore.update_eq, sound.whenOpen, failed]

theorem Sound.upsertAll_cases (sound : store.Sound) (metrics : List Metric) :
    (store.Takes metrics ∧ store.upsertAll metrics = .ok (store.after metrics)) ∨
      ∃ before metric rest error, metrics = before ++ metric :: rest ∧ store.Takes before ∧
        ((store.after before).update metric).1 = .error error ∧
        store.upsertAll metrics = .error error := by
  induction metrics generalizing store with
  | nil => exact .inl ⟨takes_nil store, rfl⟩
  | cons metric metrics ih =>
    rw [upsertAll]
    cases first : store.upsert metric with
    | error error =>
      have failed := congrArg Prod.fst (sound.update_error first)
      exact .inr ⟨[], metric, metrics, error, rfl, takes_nil store, failed, rfl⟩
    | ok answer =>
      obtain ⟨stored, next⟩ := answer
      have done := sound.update_ok first
      have step : ∀ later, store.after (metric :: later) = next.after later := by
        intro later
        rw [after, List.foldl_cons, done]
        rfl
      rcases ih (sound.of_upsert first) with
        ⟨takes, all⟩ | ⟨before, other, rest, error, rfl, takes, failed, refused⟩
      · exact .inl ⟨takes.cons done, by rw [step, ← all]⟩
      · refine .inr ⟨metric :: before, other, rest, error, rfl, takes.cons done, ?_, refused⟩
        rw [step, failed]

theorem Sound.batchOutcome (sound : store.Sound) (metrics : List Metric) :
    store.BatchOutcome metrics := by
  rcases sound.upsertAll_cases metrics with
    ⟨takes, done⟩ | ⟨before, metric, rest, error, split, takes, failed, refused⟩
  · refine .taken takes ?_
    rw [TableStore.updateAll_eq, sound.whenOpen, done]
  · refine .refused split takes failed ?_
    rw [TableStore.updateAll_eq, sound.whenOpen, refused]

/-! ### Look-ups -/

theorem Sound.get_eq (sound : store.Sound) (kind : Kind) (name : String) :
    store.get kind name =
      match store.database.value? name (seededId kind) with
      | some value => .ok ⟨name, sampleOf kind value⟩
      | none => .error (.notFound kind name) := by
  rw [get, sound.whenOpen, sound.kindId, Database.value?]
  cases found : store.database.find? name (seededId kind) with
  | none => rfl
  | some row =>
    have named : row.name = name := congrArg Prod.fst (Database.mem_of_find? found).2
    rw [← named]
    rfl

theorem kind_sampleOf (kind : Kind) (value : Binary64) : (sampleOf kind value).kind = kind := by
  cases kind <;> rfl

theorem Sound.kindOf?_eq_some_iff (sound : store.Sound) (row : MetricRow) (kind : Kind) :
    store.kindOf? row = some kind ↔ row.kindId = seededId kind := by
  rw [sound.eq, kindOf?]
  cases kind <;> grind [seededId]

/-- The metrics that the rows stand for. -/
def listing (store : TableStore) : List Metric :=
  store.database.rows.filterMap fun row =>
    (store.kindOf? row).map fun kind => ⟨row.name, sampleOf kind row.value⟩

theorem Sound.list_eq (sound : store.Sound) : store.list = .ok store.listing :=
  sound.whenOpen _

/-- What is listed is what is found under its kind and name. -/
theorem Sound.mem_listing_iff (sound : store.Sound) (metric : Metric) :
    metric ∈ store.listing ↔ store.get metric.kind metric.name = .ok metric := by
  rw [sound.get_eq, listing, List.mem_filterMap]
  constructor
  · rintro ⟨row, member, read⟩
    obtain ⟨kind, known, rfl⟩ := Option.map_eq_some_iff.mp read
    have numbered := (sound.kindOf?_eq_some_iff row kind).mp known
    have found : store.database.find? row.name (seededId kind) = some row :=
      sound.orderly.find?_eq_some_iff.mpr ⟨member, Prod.ext rfl numbered⟩
    simp only [Metric.kind, kind_sampleOf, Database.value?, found, Option.map_some]
  · intro found
    rw [Database.value?] at found
    cases looked : store.database.find? metric.name (seededId metric.kind) with
    | none =>
      rw [looked] at found
      cases found
    | some row =>
      rw [looked] at found
      obtain ⟨member, key⟩ := Database.mem_of_find? looked
      obtain ⟨named, numbered⟩ := Prod.mk.inj key
      refine ⟨row, member, ?_⟩
      rw [(sound.kindOf?_eq_some_iff row metric.kind).mpr numbered, Option.map_some, named]
      exact congrArg some (Except.ok.inj found)

theorem Sound.listing_once (sound : store.Sound) :
    (store.listing.map fun metric => (metric.kind, metric.name)).Nodup := by
  have keys : (store.listing.map fun metric => (metric.kind, metric.name)).map
      (fun found => (found.2, seededId found.1)) = store.database.rows.map MetricRow.key := by
    rw [List.map_map, listing, List.map_filterMap, ← List.filterMap_eq_map]
    refine List.filterMap_congr fun row member => ?_
    obtain ⟨kind, numbered⟩ := sound.orderly.known row member
    rw [(sound.kindOf?_eq_some_iff row kind).mpr numbered]
    simp [Metric.kind, kind_sampleOf, MetricRow.key, numbered]
  exact List.Nodup.of_map _ (keys ▸ sound.orderly.keys)

/-- A listing with each metric once, in which look-ups find what they find in the store. -/
structure Lists (store : TableStore) (listed : List Metric) : Prop where
  answered : store.list = .ok listed
  once : (listed.map fun metric => (metric.kind, metric.name)).Nodup
  agrees : ∀ kind name, store.get kind name =
    match listed.find? (Metric.concerns kind name) with
    | some metric => .ok metric
    | none => .error (.notFound kind name)

theorem Sound.lists (sound : store.Sound) : store.Lists store.listing where
  answered := sound.list_eq
  once := sound.listing_once
  agrees := by
    intro kind name
    cases found : store.listing.find? (Metric.concerns kind name) with
    | some metric =>
      obtain ⟨rfl, rfl⟩ := Metric.concerns_eq_true.mp (List.find?_some found)
      exact (sound.mem_listing_iff metric).mp (List.mem_of_find?_eq_some found)
    | none =>
      rw [sound.get_eq]
      cases kept : store.database.value? name (seededId kind) with
      | none => rfl
      | some value =>
        have listed : ⟨name, sampleOf kind value⟩ ∈ store.listing := by
          rw [sound.mem_listing_iff, Metric.kind, kind_sampleOf, sound.get_eq, kept]
        have concerned : Metric.concerns kind name ⟨name, sampleOf kind value⟩ = true :=
          Metric.concerns_eq_true.mpr ⟨kind_sampleOf kind value, rfl⟩
        exact absurd concerned (List.find?_eq_none.mp found _ listed)

/-! ### Histories -/

/-- A connection to a database that was empty at first and that only connections of this kind, and
rules from outside, have changed. -/
inductive Reached : TableStore → Prop
  | first {store : TableStore} (connected : connect .blank = .ok store) : Reached store
  | again {store next : TableStore} (reached : Reached store)
      (connected : connect store.database = .ok next) : Reached next
  | updated {store : TableStore} (reached : Reached store) (metric : Metric) :
      Reached (store.update metric).2
  | updatedAll {store : TableStore} (reached : Reached store) (metrics : List Metric) :
      Reached (store.updateAll metrics).2
  | ruled {store : TableStore} (reached : Reached store) (refused : List String) :
      Reached { store with database := { store.database with refused } }

theorem Reached.sound (reached : store.Reached) : store.Sound := by
  induction reached with
  | first connected =>
    obtain rfl := Except.ok.inj (connect_blank.symm.trans connected)
    exact ⟨orderly_prepare_blank, connect_blank⟩
  | again _reached connected sound =>
    obtain rfl := Except.ok.inj (sound.connected.symm.trans connected)
    exact sound
  | updated _reached metric sound => exact sound.update metric
  | updatedAll _reached metrics sound => exact sound.updateAll metrics
  | @ruled store _reached refused sound =>
    have orderly := sound.orderly
    exact sound.with_database
      ⟨orderly.prepared, orderly.seeded, orderly.ids, orderly.keys, orderly.known⟩

/-- Tables with one row for a metric, and a connection to them that acts accordingly. -/
structure Consistent (store : TableStore) : Prop where
  oneRow : (store.database.rows.map MetricRow.key).Nodup
  seeded : store.database.kinds = Database.blank.prepare.kinds
  known : ∀ row ∈ store.database.rows,
    ∃ kind : Kind, ⟨row.kindId, kind.word⟩ ∈ store.database.kinds
  listed : ∃ listed, store.Lists listed
  batches : ∀ metrics, store.BatchOutcome metrics
  reconnected : connect store.database = .ok store

theorem reached_consistent (reached : store.Reached) : store.Consistent := by
  have sound := reached.sound
  refine ⟨sound.orderly.keys, sound.orderly.seeded, ?_, ⟨_, sound.lists⟩, sound.batchOutcome,
    sound.connected⟩
  intro row member
  obtain ⟨kind, known⟩ := sound.orderly.known row member
  refine ⟨kind, ?_⟩
  rw [known, sound.orderly.seeded]
  cases kind <;> decide

/-- Tables to which a batch is sent that ends in a level which is no number. -/
def sampleTables : TableStore :=
  ⟨⟨true, Database.blank.prepare.kinds, [⟨1, "hits", 2, .ofInt 3⟩, ⟨2, "hits", 1, .zero⟩], []⟩,
    1, 2, true⟩

theorem reached_consistent_sampleTables :
    sampleTables.Reached ∧ sampleTables.Consistent ∧
      sampleTables.updateAll [.counter "hits" 1, .counter "new" 2, .gauge "hits" .nan] =
        (.error (.table .missingValue), sampleTables) := by
  have first := Reached.first connect_blank
  have written := first.updatedAll [.counter "hits" 3, .gauge "hits" .zero]
  have reached : sampleTables.Reached := by
    refine cast (congrArg Reached ?_) written
    decide +kernel
  exact ⟨reached, reached_consistent reached, by decide +kernel⟩

end TableStore

end Telemetry
