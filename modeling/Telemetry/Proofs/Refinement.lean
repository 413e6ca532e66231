import Mathlib.Data.List.Infix
import Telemetry.Proofs.Exactness
import Telemetry.Proofs.Tables
/-!
The store in a database does what the store in memory does. As long as all levels are finite and no
total leaves the integers that are numbers, any sequence of updates and batches is answered alike by
both, and both hold and list the same afterwards, but for the sign of a level of zero
(`Write.table_refines_memory`). The relation between them that every metric keeps is `Mirrors`.
-/

namespace Telemetry

/-! ### Zero -/

/-- The number with the one zero of a column of numbers. -/
def Binary64.oneZero (number : Binary64) : Binary64 :=
  if number.magnitude = 0 then .zero else number

def Sample.oneZero : Sample → Sample
  | .gauge level => .gauge level.oneZero
  | .counter total => .counter total

def Metric.oneZero (metric : Metric) : Metric := ⟨metric.name, metric.sample.oneZero⟩

theorem Database.kept?_eq {number : Binary64} (present : number.isNaN = false) :
    kept? number = some number.oneZero := by
  rw [kept?, present, Binary64.oneZero]
  simp only [Bool.false_eq_true, if_false]
  split <;> rfl

theorem Binary64.toInt64_oneZero (number : Binary64) : number.oneZero.toInt64 = number.toInt64 := by
  unfold oneZero
  split
  · rename_i nothing
    rw [toInt64_of_magnitude nothing]
    exact toInt64_of_magnitude rfl
  · rfl

/-- A total that is kept as a number is read back from the column. -/
theorem Binary64.toInt64_oneZero_ofInt {total : Int64}
    (small : total.toInt.natAbs ≤ exactLimit) : (ofInt total.toInt).oneZero.toInt64 = total := by
  rw [toInt64_oneZero, toInt64_ofInt small]

theorem Binary64.isNaN_of_isFinite {number : Binary64} (finite : number.isFinite = true) :
    number.isNaN = false := by
  have below : number.magnitude < infinite := of_decide_eq_true finite
  exact decide_eq_false (Nat.not_lt.mpr (Nat.le_of_lt below))

@[simp] theorem Metric.kind_oneZero (metric : Metric) : metric.oneZero.kind = metric.kind := by
  obtain ⟨name, sample⟩ := metric
  cases sample <;> rfl

@[simp] theorem Metric.name_oneZero (metric : Metric) : metric.oneZero.name = metric.name := rfl

/-! ### Totals that are numbers -/

namespace MemoryStore

/-- All totals are among the integers up to which none is missing among the numbers. -/
def IsExact (store : MemoryStore) : Prop :=
  ∀ entry ∈ store.counters.entries, entry.2.toInt.natAbs ≤ Binary64.exactLimit

/-- All totals are so after each of some metrics that are merged one after another. -/
def StaysExact (store : MemoryStore) (metrics : List Metric) : Prop :=
  ∀ before, before <+: metrics → (store.merge before).IsExact

theorem StaysExact.of_append {store : MemoryStore} {first second : List Metric}
    (exact : store.StaysExact (first ++ second)) :
    store.StaysExact first ∧ (store.merge first).StaysExact second := by
  constructor
  · intro before start
    exact exact before (start.trans (List.prefix_append first second))
  · intro before start
    rw [← merge_append]
    exact exact (first ++ before) ((List.prefix_append_right_inj first).mpr start)

theorem StaysExact.start {store : MemoryStore} {metrics : List Metric}
    (exact : store.StaysExact metrics) : store.IsExact :=
  exact [] (List.nil_prefix)

theorem IsExact.of_find? {store : MemoryStore} (exact : store.IsExact) {name : String}
    {total : Int64} (held : store.counters.find? name = some total) :
    total.toInt.natAbs ≤ Binary64.exactLimit :=
  exact (name, total) (store.counters.find?_eq_some_iff.mp held)

/-! ### Listings -/

/-- What is listed is what is found under its kind and name. -/
theorem mem_list_iff (store : MemoryStore) (metric : Metric) :
    metric ∈ store.list ↔ store.get metric.kind metric.name = .ok metric := by
  rw [get_eq_ok_iff]
  obtain ⟨name, sample⟩ := metric
  cases sample with
  | gauge level =>
    have entry : store.gauges.find? name = some level ↔ _ := store.gauges.find?_eq_some_iff
    simp [list, find?, Metric.kind, Sample.kind, Metric.gauge, Metric.counter, entry]
  | counter total =>
    have entry : store.counters.find? name = some total ↔ _ := store.counters.find?_eq_some_iff
    simp [list, find?, Metric.kind, Sample.kind, Metric.gauge, Metric.counter, entry]

theorem list_once (store : MemoryStore) :
    (store.list.map fun metric => (metric.kind, metric.name)).Nodup := by
  have names : ∀ {α : Type} (map : NameMap α) (kind : Kind),
      (map.entries.map fun entry => (kind, entry.1)).Nodup := by
    intro α map kind
    refine List.pairwise_map.mpr (map.ordered.imp fun below same => ?_)
    rw [(Prod.mk.inj same).2] at below
    exact String.lt_irrefl _ below
  rw [list, List.map_append, List.map_map, List.map_map]
  refine List.Nodup.append (names store.gauges .gauge) (names store.counters .counter) ?_
  intro key level total
  obtain ⟨_gauge, _inside, rfl⟩ := List.mem_map.mp level
  obtain ⟨_counter, _member, same⟩ := List.mem_map.mp total
  cases (Prod.mk.inj same).1

end MemoryStore

/-! ### One metric -/

namespace TableStore

open Database (seededId)

variable {store : TableStore} {memory : MemoryStore}

/-- A database that holds, metric by metric, what a store in memory holds. -/
structure Mirrors (store : TableStore) (memory : MemoryStore) : Prop where
  sound : store.Sound
  unruled : store.database.refused = []
  exact : memory.IsExact
  values : ∀ kind name, store.database.value? name (seededId kind) =
    (memory.find? kind name).map fun sample => (columnOf sample).oneZero

/-- What the column keeps of a sample is the sample with one zero. -/
theorem sampleOf_columnOf {sample : Sample}
    (exact : ∀ total, sample = .counter total → total.toInt.natAbs ≤ Binary64.exactLimit) :
    sampleOf sample.kind (columnOf sample).oneZero = sample.oneZero := by
  cases sample with
  | gauge level => rfl
  | counter total =>
    exact congrArg Sample.counter (Binary64.toInt64_oneZero_ofInt (exact total rfl))

theorem isNaN_columnOf {sample : Sample} (finite : sample.isFinite = true) :
    (columnOf sample).isNaN = false := by
  cases sample with
  | gauge level => exact Binary64.isNaN_of_isFinite finite
  | counter total => exact Binary64.isNaN_ofInt total.toInt

theorem merged_gauge (store : TableStore) (name : String) (level : Binary64) :
    store.merged (.gauge name level) = .gauge name level := by
  simp only [merged, Metric.gauge]
  cases store.database.value? name (store.kindId (Metric.kind ⟨name, .gauge level⟩)) <;> rfl

theorem merged_counter (store : TableStore) (name : String) (delta : Int64) :
    store.merged (.counter name delta) = .counter name
      (((store.database.value? name (store.kindId .counter)).map Binary64.toInt64).getD 0 +
        delta) := by
  simp only [merged, Metric.counter, Metric.kind, Sample.kind]
  cases store.database.value? name (store.kindId .counter) with
  | none => exact congrArg (Metric.counter name) (Int64.zero_add delta).symm
  | some total => rfl

/-- A total is found in its row as it is held in memory. -/
theorem Mirrors.total_eq (mirrors : store.Mirrors memory) (name : String) :
    (store.database.value? name (seededId .counter)).map Binary64.toInt64 =
      memory.counters.find? name := by
  rw [mirrors.values]
  change ((memory.counters.find? name).map Sample.counter |>.map _).map _ = _
  cases found : memory.counters.find? name with
  | none => rfl
  | some total =>
    have small := mirrors.exact.of_find? found
    exact congrArg some (Binary64.toInt64_oneZero_ofInt small)

theorem Mirrors.merged_eq (mirrors : store.Mirrors memory) (metric : Metric) :
    store.merged metric = (memory.update metric).1 := by
  obtain ⟨name, sample⟩ := metric
  cases sample with
  | gauge level => exact store.merged_gauge name level
  | counter delta =>
    have merged := store.merged_counter name delta
    rw [mirrors.sound.kindId, mirrors.total_eq] at merged
    exact merged

/-- A metric is taken by both stores with one answer, and the database goes on holding what the
memory holds. -/
theorem Mirrors.upsert (mirrors : store.Mirrors memory) {metric : Metric}
    (finite : metric.sample.isFinite = true) (exact : (memory.update metric).2.IsExact) :
    ∃ next, store.upsert metric = .ok ((memory.update metric).1, next) ∧
      next.Mirrors (memory.update metric).2 := by
  have sound := mirrors.sound
  have number : (columnOf (memory.update metric).1.sample).isNaN = false := by
    apply isNaN_columnOf
    obtain ⟨name, sample⟩ := metric
    cases sample with
    | gauge level => exact finite
    | counter delta => rfl
  have free : store.refuses metric = false := by
    rw [refuses, mirrors.unruled]
    exact Bool.and_false _
  have done := sound.upsert_eq metric
  rw [mirrors.merged_eq, Database.kept?_eq number] at done
  simp only [free, Bool.false_eq_true, if_false] at done
  refine ⟨_, done, sound.with_database (sound.orderly.put _ _ _), ?_, exact, ?_⟩
  · exact (Database.refused_put ..).trans mirrors.unruled
  · intro kind name
    rw [sound.orderly.value?_put]
    by_cases same : metric.concerns kind name = true
    · obtain ⟨rfl, rfl⟩ := Metric.concerns_eq_true.mp same
      rw [if_pos rfl, MemoryStore.find?_update_self]
      rfl
    · have apart : (name, seededId kind) ≠ (metric.name, seededId metric.kind) := by
        intro equal
        obtain ⟨named, numbered⟩ := Prod.mk.inj equal
        exact same (Metric.concerns_eq_true.mpr ⟨Database.seededId_inj numbered.symm, named.symm⟩)
      rw [if_neg apart, memory.find?_update_of_not_concerns (Bool.eq_false_iff.mpr same)]
      exact mirrors.values kind name

theorem Mirrors.update (mirrors : store.Mirrors memory) {metric : Metric}
    (finite : metric.sample.isFinite = true) (exact : (memory.update metric).2.IsExact) :
    (store.update metric).1 = .ok (memory.update metric).1 ∧
      (store.update metric).2.Mirrors (memory.update metric).2 := by
  obtain ⟨next, done, mirrored⟩ := mirrors.upsert finite exact
  rw [mirrors.sound.update_ok done]
  exact ⟨rfl, mirrored⟩

/-- The metrics of a batch are taken one after another, each read from what the ones before it
have written. -/
theorem Mirrors.upsertAll (mirrors : store.Mirrors memory) {metrics : List Metric}
    (finite : ∀ metric ∈ metrics, metric.sample.isFinite = true)
    (exact : memory.StaysExact metrics) :
    ∃ next, store.upsertAll metrics = .ok next ∧ next.Mirrors (memory.merge metrics) := by
  induction metrics generalizing store memory with
  | nil => exact ⟨store, rfl, mirrors⟩
  | cons metric rest ih =>
    have split : memory.StaysExact ([metric] ++ rest) := exact
    have later := split.of_append.2
    obtain ⟨next, done, mirrored⟩ := mirrors.upsert (finite metric List.mem_cons_self) later.start
    rw [TableStore.upsertAll, done]
    exact ih mirrored (fun other member => finite other (List.mem_cons_of_mem _ member)) later

theorem Mirrors.updateAll (mirrors : store.Mirrors memory) {metrics : List Metric}
    (finite : ∀ metric ∈ metrics, metric.sample.isFinite = true)
    (exact : memory.StaysExact metrics) :
    (store.updateAll metrics).1 = .ok () ∧
      (store.updateAll metrics).2.Mirrors (memory.updateAll metrics) := by
  obtain ⟨next, done, mirrored⟩ := mirrors.upsertAll finite exact
  rw [TableStore.updateAll_eq, mirrors.sound.whenOpen, done, MemoryStore.updateAll_eq_merge]
  exact ⟨rfl, mirrored⟩

/-! ### What both answer -/

/-- Two stores that give the same answers about what they hold, but for the sign of a zero. -/
structure Agrees (store : TableStore) (memory : MemoryStore) : Prop where
  gets : ∀ kind name, store.get kind name = (memory.get kind name).map Metric.oneZero
  lists : ∃ listed, store.list = .ok listed ∧ listed.Perm (memory.list.map Metric.oneZero)

theorem Mirrors.get_eq (mirrors : store.Mirrors memory) (kind : Kind) (name : String) :
    store.get kind name = (memory.get kind name).map Metric.oneZero := by
  rw [mirrors.sound.get_eq, mirrors.values, MemoryStore.get]
  cases held : memory.find? kind name with
  | none => rfl
  | some sample =>
    have kept : sampleOf sample.kind (columnOf sample).oneZero = sample.oneZero := by
      apply sampleOf_columnOf
      rintro total rfl
      obtain rfl : Kind.counter = kind := MemoryStore.kind_of_find? held
      obtain ⟨number, found, same⟩ := Option.map_eq_some_iff.mp held
      obtain rfl : number = total := Sample.counter.inj same
      exact mirrors.exact.of_find? found
    rw [MemoryStore.kind_of_find? held] at kept
    exact congrArg (fun sample => Except.ok (Metric.mk name sample)) kept

theorem Mirrors.agrees (mirrors : store.Mirrors memory) : store.Agrees memory where
  gets := mirrors.get_eq
  lists := by
    refine ⟨store.listing, mirrors.sound.list_eq, ?_⟩
    have once : (memory.list.map Metric.oneZero).Nodup := by
      refine List.Nodup.of_map (fun metric => (metric.kind, metric.name)) ?_
      rw [List.map_map]
      simpa [Function.comp_def] using memory.list_once
    refine (List.perm_ext_iff_of_nodup (mirrors.sound.listing_once.of_map _) once).mpr ?_
    intro metric
    rw [mirrors.sound.mem_listing_iff, mirrors.get_eq, List.mem_map]
    constructor
    · intro found
      cases held : memory.get metric.kind metric.name with
      | error error =>
        rw [held] at found
        cases found
      | ok stored =>
        rw [held] at found
        obtain ⟨sameKind, sameName, _found⟩ := memory.get_eq_ok_iff.mp held
        refine ⟨stored, ?_, Except.ok.inj found⟩
        rw [memory.mem_list_iff, sameKind, sameName, held]
    · rintro ⟨stored, member, rfl⟩
      have held := (memory.mem_list_iff stored).mp member
      rw [Metric.kind_oneZero, Metric.name_oneZero, held]
      rfl

end TableStore

/-! ### Sequences of writes -/

/-- A write that a store is asked for: one metric, or metrics as one unit. -/
inductive Write where
  | one (metric : Metric)
  | all (metrics : List Metric)

namespace Write

def metrics : Write → List Metric
  | .one metric => [metric]
  | .all metrics => metrics

variable {σ : Type}

/-- Does a write and gives what is stored of its metric, if it is one. -/
def perform (backend : Backend σ) (now : Nat) (write : Write) (state : σ) :
    Except StorageError (Option Metric) × σ :=
  match write with
  | .one metric =>
    let (answer, next) := backend.update metric now state
    (answer.map some, next)
  | .all metrics =>
    let (answer, next) := backend.updateAll metrics now state
    (answer.map fun _ => none, next)

/-- Does writes one after another and gives all their answers. -/
def run (backend : Backend σ) (now : Nat) :
    List Write → σ → List (Except StorageError (Option Metric)) × σ
  | [], state => ([], state)
  | write :: rest, state =>
    let (answer, next) := write.perform backend now state
    let (answers, last) := run backend now rest next
    (answer :: answers, last)

/-- Runs of two stores with the same answers, after which they hold the same. -/
structure Matches (now : Nat) (writes : List Write) (store : TableStore) (host : FiledStore) :
    Prop where
  answers : (run .table now writes store).1 = (run .memory now writes host).1
  agrees : (run .table now writes store).2.Agrees (run .memory now writes host).2.store

variable {store : TableStore} {host : FiledStore}

theorem perform_mirrors (mirrors : store.Mirrors host.store) (now : Nat) {write : Write}
    (finite : ∀ metric ∈ write.metrics, metric.sample.isFinite = true)
    (exact : host.store.StaysExact write.metrics) :
    (write.perform .table now store).1 = (write.perform .memory now host).1 ∧
      (write.perform .table now store).2.Mirrors (write.perform .memory now host).2.store ∧
        (write.perform .memory now host).2.store = host.store.merge write.metrics := by
  cases write with
  | one metric =>
    obtain ⟨answer, mirrored⟩ := mirrors.update (finite metric List.mem_cons_self)
      (exact [metric] (List.prefix_refl [metric]))
    exact ⟨congrArg (Except.map some) answer, mirrored, rfl⟩
  | all metrics =>
    obtain ⟨answer, mirrored⟩ := mirrors.updateAll finite exact
    exact ⟨congrArg (Except.map fun _ => none) answer, mirrored,
      MemoryStore.updateAll_eq_merge host.store metrics⟩

theorem run_mirrors (mirrors : store.Mirrors host.store) (now : Nat) {writes : List Write}
    (finite : ∀ metric ∈ writes.flatMap metrics, metric.sample.isFinite = true)
    (exact : host.store.StaysExact (writes.flatMap metrics)) :
    (run .table now writes store).1 = (run .memory now writes host).1 ∧
      (run .table now writes store).2.Mirrors (run .memory now writes host).2.store := by
  induction writes generalizing store host with
  | nil => exact ⟨rfl, mirrors⟩
  | cons write rest ih =>
    rw [List.flatMap_cons] at finite exact
    obtain ⟨first, later⟩ := exact.of_append
    obtain ⟨answer, mirrored, merged⟩ := perform_mirrors mirrors now
      (fun metric member => finite metric (List.mem_append_left _ member)) first
    rw [← merged] at later
    obtain ⟨answers, last⟩ := ih mirrored
      (fun metric member => finite metric (List.mem_append_right _ member)) later
    exact ⟨congrArg₂ List.cons answer answers, last⟩

theorem mirrors_fresh :
    TableStore.Mirrors ⟨Database.blank.prepare, Database.seededId .gauge,
      Database.seededId .counter, true⟩ .empty where
  sound := ⟨TableStore.orderly_prepare_blank, TableStore.connect_blank⟩
  unruled := rfl
  exact := nofun
  values := by
    intro kind name
    cases kind <;> rfl

/-- Any sequence of writes finds a new database and a new store in memory in agreement: about each
answer, and after each write about everything that they hold. -/
theorem table_refines_memory (writes : List Write) (now : Nat) (file : Option SnapshotFile)
    (finite : ∀ metric ∈ writes.flatMap metrics, metric.sample.isFinite = true)
    (exact : MemoryStore.empty.StaysExact (writes.flatMap metrics)) :
    ∃ fresh, TableStore.connect .blank = .ok fresh ∧
      ∀ count, Matches now (writes.take count) fresh ⟨.empty, file⟩ := by
  refine ⟨_, TableStore.connect_blank, fun count => ?_⟩
  rw [← List.take_append_drop count writes, List.flatMap_append] at finite exact
  have fresh : TableStore.Mirrors _ (FiledStore.mk .empty file).store := mirrors_fresh
  obtain ⟨answers, mirrors⟩ := run_mirrors fresh now
    (fun metric member => finite metric (List.mem_append_left _ member)) exact.of_append.1
  exact ⟨answers, mirrors.agrees⟩

/-- Writes with a level of minus zero, and with a batch in which a total is at the limit. -/
def sampleWrites : List Write :=
  [.one (.gauge "heat" ⟨0x8000000000000000⟩),
    .all [.counter "heat" 0x20000000000000, .gauge "heat" (.ofInt 4), .counter "heat" (-1)],
    .one (.counter "new" (-5))]

theorem table_refines_memory_sampleWrites :
    (∀ metric ∈ sampleWrites.flatMap metrics, metric.sample.isFinite = true) ∧
      MemoryStore.empty.StaysExact (sampleWrites.flatMap metrics) ∧
      ∃ fresh, TableStore.connect .blank = .ok fresh ∧
        ∀ count, Matches 0 (sampleWrites.take count) fresh ⟨.empty, none⟩ := by
  have finite : ∀ metric ∈ sampleWrites.flatMap metrics, metric.sample.isFinite = true := by
    decide +kernel
  have exact : MemoryStore.empty.StaysExact (sampleWrites.flatMap metrics) := by
    have inits : ∀ before ∈ (sampleWrites.flatMap metrics).inits,
        (MemoryStore.empty.merge before).IsExact := by
      unfold MemoryStore.IsExact
      decide +kernel
    intro before start
    exact inits before ((List.mem_inits before _).mpr start)
  exact ⟨finite, exact, table_refines_memory sampleWrites 0 none finite exact⟩

end Write

end Telemetry
