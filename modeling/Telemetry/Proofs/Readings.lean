import Telemetry.Proofs.Refinement
/-!
What is read of a metric after an update of it has been answered, and what the next update adds to
(`Backend.GivesBack`). A store in memory gives back the very sample that was answered. A database
gives back what its column has kept of it (`TableStore.columned`): the level, but for the sign of a
zero, and the total as it was rounded to a number. So a total that was answered is read just when
rounding keeps it, as it does up to two to the power 53 (`TableStore.updates_are_read`).
-/

namespace Telemetry

/-- The same sample, where levels are compared as numbers. -/
inductive Sample.Same : Sample → Sample → Prop
  | gauge {level other : Binary64} (same : level.sameNumber other = true) :
    Same (.gauge level) (.gauge other)
  | counter (total : Int64) : Same (.counter total) (.counter total)

/-- A store that after an update gives back one sample: to a read, and to the next update of a
counter. -/
structure Backend.GivesBack {σ : Type} (backend : Backend σ) (metric answer : Metric)
    (kept : Sample) (after : σ) : Prop where
  named : answer.name = metric.name
  kinded : answer.kind = metric.kind
  read : ∀ now, (backend.get metric.kind metric.name now after).1 = .ok ⟨metric.name, kept⟩
  added : ∀ now total delta, kept = .counter total →
    (backend.update (.counter metric.name delta) now after).1 =
      .ok (.counter metric.name (total + delta))

/-- A store that after an update gives back what it answered. -/
def Backend.GivesAnswerBack {σ : Type} (backend : Backend σ) (metric answer : Metric)
    (after : σ) : Prop :=
  ∃ kept, answer.sample.Same kept ∧ backend.GivesBack metric answer kept after

/-! ### In memory -/

namespace MemoryStore

theorem name_update (store : MemoryStore) (metric : Metric) :
    (store.update metric).1.name = metric.name := by
  obtain ⟨name, sample⟩ := metric
  cases sample <;> rfl

theorem kind_update (store : MemoryStore) (metric : Metric) :
    (store.update metric).1.kind = metric.kind := by
  obtain ⟨name, sample⟩ := metric
  cases sample <;> rfl

theorem update_counter {store : MemoryStore} {name : String} {total : Int64}
    (found : store.find? .counter name = some (.counter total)) (delta : Int64) :
    (store.update (.counter name delta)).1 = .counter name (total + delta) := by
  obtain ⟨held, looked, same⟩ := Option.map_eq_some_iff.mp found
  obtain rfl : held = total := Sample.counter.inj same
  simp only [update, Metric.counter, totalAfter, looked, Option.getD_some]

/-- In memory everything is kept as it was answered. -/
theorem givesBack (host : FiledStore) (metric : Metric) (now : Nat) :
    ∃ answer after, Backend.memory.update metric now host = (.ok answer, after) ∧
      Backend.memory.GivesBack metric answer answer.sample after := by
  have stored := host.store.find?_update_self metric
  refine ⟨_, _, rfl, host.store.name_update metric, host.store.kind_update metric, ?_, ?_⟩
  · intro _later
    change (host.store.update metric).2.get metric.kind metric.name = _
    rw [get, stored]
    rfl
  · intro _later total delta kept
    have answered : (host.store.update metric).1.sample = .counter total := kept
    have counter : metric.kind = .counter :=
      (host.store.kind_update metric).symm.trans (congrArg Sample.kind answered)
    rw [counter, answered] at stored
    exact congrArg Except.ok (update_counter stored delta)

end MemoryStore

/-! ### In a database -/

theorem Binary64.sameNumber_oneZero {number : Binary64} (present : number.isNaN = false) :
    number.sameNumber number.oneZero = true := by
  unfold oneZero
  split
  · rename_i nothing
    have zero : Binary64.zero.isNaN = false := rfl
    have same : (number.magnitude == 0 && Binary64.zero.magnitude == 0) = true := by
      rw [nothing]
      rfl
    rw [sameNumber, present, zero, same, Bool.or_true]
    rfl
  · rw [sameNumber, present, beq_self_eq_true]
    rfl

theorem Database.isNaN_of_kept? {number kept : Binary64} (found : kept? number = some kept) :
    number.isNaN = false := by
  rw [kept?] at found
  cases missing : number.isNaN with
  | false => rfl
  | true =>
    rw [missing, if_pos rfl] at found
    cases found

namespace TableStore

open Database (seededId)

/-- What the column of values keeps of a sample. -/
def columned (sample : Sample) : Sample := sampleOf sample.kind (columnOf sample).oneZero

theorem kind_columned (sample : Sample) : (columned sample).kind = sample.kind := by
  cases sample <;> rfl

theorem kind_merged (store : TableStore) (metric : Metric) :
    (store.merged metric).kind = metric.kind := by
  obtain ⟨name, sample⟩ := metric
  cases sample with
  | gauge level => exact congrArg Metric.kind (store.merged_gauge name level)
  | counter delta => exact (congrArg Metric.kind (store.merged_counter name delta)).trans rfl

theorem name_merged (store : TableStore) (metric : Metric) :
    (store.merged metric).name = metric.name := by
  obtain ⟨name, sample⟩ := metric
  cases sample with
  | gauge level => exact congrArg Metric.name (store.merged_gauge name level)
  | counter delta => exact (congrArg Metric.name (store.merged_counter name delta)).trans rfl

variable {store after : TableStore} {metric answer : Metric}

/-- An update that is taken answers what was merged and puts that into the column. -/
theorem Sound.of_update (sound : store.Sound) (done : store.update metric = (.ok answer, after)) :
    answer = store.merged metric ∧ (columnOf answer.sample).isNaN = false ∧
      after.database.value? metric.name (seededId metric.kind) =
        some (columnOf answer.sample).oneZero := by
  rw [TableStore.update_eq, sound.whenOpen, sound.upsert_eq] at done
  cases kept : Database.kept? (columnOf (store.merged metric).sample) with
  | none =>
    rw [kept] at done
    cases done
  | some value =>
    have present := Database.isNaN_of_kept? kept
    have zeroed := (Database.kept?_eq present).symm.trans kept
    cases refused : store.refuses metric with
    | true =>
      simp only [kept, refused, if_true] at done
      cases done
    | false =>
      simp only [kept, refused, Bool.false_eq_true, if_false] at done
      cases done
      refine ⟨rfl, present, ?_⟩
      rw [sound.orderly.value?_put, if_pos rfl, zeroed]

/-- A counter that has a row is always updated. -/
theorem Sound.update_counter (sound : store.Sound) {name : String} {value : Binary64}
    (found : store.database.value? name (seededId .counter) = some value) (delta : Int64) :
    (store.update (.counter name delta)).1 = .ok (.counter name (value.toInt64 + delta)) := by
  rw [← sound.kindId] at found
  have merged : store.merged (.counter name delta) = .counter name (value.toInt64 + delta) := by
    rw [merged_counter, found]
    rfl
  have present : store.refuses (.counter name delta) = false := by
    have row : store.database.value? (Metric.counter name delta).name
        (store.kindId (Metric.counter name delta).kind) = some value := found
    rw [refuses, row]
    rfl
  have number : Database.kept? (columnOf (.counter (value.toInt64 + delta))) = some _ :=
    Database.kept?_eq (Binary64.isNaN_ofInt _)
  have upserted := sound.upsert_eq (.counter name delta)
  rw [merged, present] at upserted
  simp only [Metric.counter, number] at upserted
  exact congrArg Prod.fst (sound.update_ok upserted)

/-- A database gives back of an answer what its column keeps of it. -/
theorem Sound.givesBack (sound : store.Sound) (done : store.update metric = (.ok answer, after)) :
    Backend.table.GivesBack metric answer (columned answer.sample) after := by
  obtain ⟨rfl, _present, value⟩ := sound.of_update done
  have still : after.Sound := by
    have kept := sound.update metric
    rwa [done] at kept
  have kind := store.kind_merged metric
  refine ⟨store.name_merged metric, kind, fun _now => ?_, fun _now total delta kept => ?_⟩
  · change after.get metric.kind metric.name = _
    rw [still.get_eq, value, columned, show (store.merged metric).sample.kind = _ from kind]
  · have counter : (store.merged metric).sample.kind = .counter :=
      (kind_columned _).symm.trans (congrArg Sample.kind kept)
    rw [← kind, show (store.merged metric).kind = _ from counter] at value
    rw [columned, counter] at kept
    have read : (columnOf (store.merged metric).sample).oneZero.toInt64 = total :=
      Sample.counter.inj kept
    rw [← read]
    exact still.update_counter value delta

/-- What a column has of a sample: a level, but for the sign of a zero, and a total as it is read
back from the nearest number. -/
inductive Rounds : Sample → Sample → Prop
  | gauge {level kept : Binary64} (same : level.sameNumber kept = true) :
    Rounds (.gauge level) (.gauge kept)
  | counter {total kept : Int64} (read : kept = (Binary64.ofInt total.toInt).toInt64)
    (near : kept.toInt ≤ total.toInt + 512 ∧ total.toInt ≤ kept.toInt + 512)
    (exact : total.toInt.natAbs ≤ Binary64.exactLimit → kept = total) :
    Rounds (.counter total) (.counter kept)

theorem rounds_columned {sample : Sample} (present : (columnOf sample).isNaN = false) :
    Rounds sample (columned sample) := by
  cases sample with
  | gauge level => exact .gauge (Binary64.sameNumber_oneZero present)
  | counter total =>
    have read : (Binary64.ofInt total.toInt).oneZero.toInt64 =
        (Binary64.ofInt total.toInt).toInt64 := Binary64.toInt64_oneZero _
    refine .counter read ?_ fun small => read.trans (Binary64.toInt64_ofInt small)
    rw [columnOf, read]
    exact Binary64.toInt64_ofInt_near total

/-- The column has the same sample just when a total is read back from the nearest number. -/
theorem same_columned_iff {sample : Sample} (present : (columnOf sample).isNaN = false) :
    sample.Same (columned sample) ↔
      ∀ total, sample = .counter total → (Binary64.ofInt total.toInt).toInt64 = total := by
  cases sample with
  | gauge level =>
    refine ⟨fun _same total other => ?_,
      fun _all => Sample.Same.gauge (Binary64.sameNumber_oneZero present)⟩
    cases other
  | counter total =>
    have kept : columned (.counter total) = .counter (Binary64.ofInt total.toInt).toInt64 :=
      congrArg Sample.counter (Binary64.toInt64_oneZero _)
    rw [kept]
    constructor
    · intro same other found
      cases found
      generalize (Binary64.ofInt total.toInt).toInt64 = read at same
      cases same
      rfl
    · intro exact
      rw [exact total rfl]
      exact .counter total

/-- What a store gives back to every read is the one sample that it keeps. -/
theorem givesAnswerBack_iff {kept : Sample}
    (gives : Backend.table.GivesBack metric answer kept after) :
    Backend.table.GivesAnswerBack metric answer after ↔ answer.sample.Same kept := by
  constructor
  · rintro ⟨other, same, also⟩
    have read := (also.read 0).symm.trans (gives.read 0)
    cases read
    exact same
  · exact fun same => ⟨kept, same, gives⟩

/-- After an update that was taken, a read gives back what the store keeps of the answer, and the
next update of a counter adds to that. In memory it is the answer, in a database the answer as its
column has it, which is the answer just when no total is lost to rounding. -/
theorem updates_are_read (reached : store.Reached) (host : FiledStore) (metric : Metric)
    (now : Nat) :
    (∃ answer after, Backend.memory.update metric now host = (.ok answer, after) ∧
      Backend.memory.GivesBack metric answer answer.sample after) ∧
    ∀ answer after, Backend.table.update metric now store = (.ok answer, after) →
      Backend.table.GivesBack metric answer (columned answer.sample) after ∧
      Rounds answer.sample (columned answer.sample) ∧
      (Backend.table.GivesAnswerBack metric answer after ↔ ∀ total,
        answer.sample = .counter total → (Binary64.ofInt total.toInt).toInt64 = total) := by
  refine ⟨MemoryStore.givesBack host metric now, fun answer after done => ?_⟩
  have sound := reached.sound
  have gives := sound.givesBack done
  have present := (sound.of_update done).2.1
  exact ⟨gives, rounds_columned present,
    (givesAnswerBack_iff gives).trans (same_columned_iff present)⟩

/-- Tables without a metric, and a connection to them. -/
def newTables : TableStore := ⟨Database.blank.prepare, 1, 2, true⟩

/-- A total that no number is equal to. -/
def oddTotal : Int64 := 0x20000000000001

theorem updates_are_read_oddTotal :
    newTables.Reached ∧ ∃ after,
      Backend.table.update (.counter "Hits" oddTotal) 0 newTables =
          (.ok (.counter "Hits" oddTotal), after) ∧
        Backend.table.GivesBack (.counter "Hits" oddTotal) (.counter "Hits" oddTotal)
          (columned (.counter oddTotal)) after := by
  have reached : newTables.Reached := .first connect_blank
  exact ⟨reached, _, rfl, ((updates_are_read reached ⟨.empty, none⟩ _ 0).2 _ _ rfl).1⟩

/-- The total that is answered is not the one that is read, and not the one that is added to. -/
theorem oddTotal_is_not_read :
    (newTables.update (.counter "Hits" oddTotal)).1 = .ok (.counter "Hits" oddTotal) ∧
      (newTables.update (.counter "Hits" oddTotal)).2.get .counter "Hits" =
        .ok (.counter "Hits" (oddTotal - 1)) ∧
      ((newTables.update (.counter "Hits" oddTotal)).2.update (.counter "Hits" 1)).1 =
        .ok (.counter "Hits" oddTotal) := by
  decide +kernel

end TableStore

end Telemetry
