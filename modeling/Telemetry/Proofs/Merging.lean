import Telemetry.Server.Launch
/-!
Writes on a server that keeps its store in memory. Each of the three operations of the service
either refuses and leaves everything as it is, or merges its metrics one after another in their
order and, where the file is kept in step, saves the store (`FiledStore.written`). A file that can
be written stays one that can be written.
-/

namespace Telemetry

/-- What a metric adds to the total of a name, if it is a counter of that name. -/
def Metric.delta? (name : String) (metric : Metric) : Option Int64 :=
  match metric.sample with
  | .gauge _ => none
  | .counter delta => if metric.name = name then some delta else none

def Metric.deltas (name : String) (metrics : List Metric) : List Int64 :=
  metrics.filterMap (delta? name)

/-- The sum of numbers, as an integer that may be as large as it likes. -/
def Metric.sum (numbers : List Int64) : Int :=
  numbers.foldr (fun number sum => number.toInt + sum) 0

namespace MemoryStore

/-- The store after metrics that come one after another. -/
def merge (store : MemoryStore) (metrics : List Metric) : MemoryStore :=
  metrics.foldl (fun store metric => (store.update metric).2) store

theorem update_eq (store : MemoryStore) (metric : Metric) :
    (store.update metric).2 =
      ⟨mergeLevel store.gauges metric, mergeTotal store.counters metric⟩ := by
  obtain ⟨name, sample⟩ := metric
  cases sample <;> rfl

theorem updateAll_eq_merge (store : MemoryStore) (metrics : List Metric) :
    store.updateAll metrics = store.merge metrics := by
  induction metrics generalizing store with
  | nil => rfl
  | cons metric rest ih =>
    change store.updateAll (metric :: rest) = merge (store.update metric).2 rest
    rw [← ih, update_eq]
    rfl

theorem merge_append (store : MemoryStore) (first second : List Metric) :
    store.merge (first ++ second) = (store.merge first).merge second :=
  List.foldl_append

/-- The total of a name is what it was with the sum of all that was added, modulo two to the power
64; without a counter of that name it stays as it was. -/
theorem find?_merge_counters (store : MemoryStore) (metrics : List Metric) (name : String) :
    (store.merge metrics).counters.find? name =
      if Metric.deltas name metrics = [] then store.counters.find? name
      else some (Int64.ofInt (((store.counters.find? name).getD 0).toInt +
        Metric.sum (Metric.deltas name metrics))) := by
  induction metrics generalizing store with
  | nil => rfl
  | cons metric rest ih =>
    obtain ⟨other, sample⟩ := metric
    have step : store.merge (⟨other, sample⟩ :: rest) =
        (store.update ⟨other, sample⟩).2.merge rest := rfl
    rw [step, ih]
    cases sample with
    | gauge level => rfl
    | counter delta =>
      have after : (store.update ⟨other, .counter delta⟩).2.counters.find? name =
          if name = other then some ((store.counters.find? other).getD 0 + delta)
          else store.counters.find? name :=
        NameMap.find?_insert store.counters other name _
      by_cases same : name = other
      · subst same
        have deltas : Metric.deltas name (⟨name, .counter delta⟩ :: rest) =
            delta :: Metric.deltas name rest :=
          List.filterMap_cons_some (if_pos rfl)
        have sum : Metric.sum (delta :: Metric.deltas name rest) =
            delta.toInt + Metric.sum (Metric.deltas name rest) := rfl
        rw [after, if_pos rfl, deltas, if_neg (List.cons_ne_nil _ _), sum, Option.getD_some]
        by_cases last : Metric.deltas name rest = []
        · have nothing : Metric.sum [] = 0 := rfl
          rw [if_pos last, last, nothing, Int.add_zero, Int64.ofInt_add, Int64.ofInt_toInt,
            Int64.ofInt_toInt]
        · rw [if_neg last, Int64.ofInt_add, Int64.ofInt_add, Int64.ofInt_add, Int64.ofInt_toInt,
            Int64.ofInt_toInt, Int64.ofInt_toInt, Int64.add_assoc]
      · have deltas : Metric.deltas name (⟨other, .counter delta⟩ :: rest) =
            Metric.deltas name rest :=
          List.filterMap_cons_none (if_neg (Ne.symm same))
        rw [after, if_neg same, deltas]

theorem find?_merge_empty (metrics : List Metric) (name : String) :
    (empty.merge metrics).counters.find? name =
      if Metric.deltas name metrics = [] then none
      else some (Int64.ofInt (Metric.sum (Metric.deltas name metrics))) := by
  have zero : ((empty.counters.find? name).getD 0).toInt = 0 := rfl
  rw [find?_merge_counters, zero, Int.zero_add]
  rfl

end MemoryStore

theorem SnapshotFile.write_of_isWritable (path : String) {node : FileNode}
    (writable : (SnapshotFile.mk path node).isWritable = true) (octets : Bytes) :
    (SnapshotFile.mk path node).write octets = .ok ⟨path, .content octets⟩ := by
  cases node with
  | missing => rfl
  | content found => rfl
  | directory => cases writable
  | nowhere => cases writable

theorem MemoryStore.save_eq (store : MemoryStore) {file : SnapshotFile}
    (writable : file.isWritable = true) :
    store.save file = .ok ⟨file.path, .content store.snapshot.write⟩ :=
  SnapshotFile.write_of_isWritable file.path writable store.snapshot.write

namespace FiledStore

/-- A save succeeds, where each write is followed by one. -/
def CanKeep (keepsFile : Bool) (host : FiledStore) : Prop :=
  keepsFile = true → ∃ file, host.file = some file ∧ file.isWritable = true

/-- The store after metrics, saved where the file is kept in step. -/
def mergeAndKeep (keepsFile : Bool) (host : FiledStore) (metrics : List Metric) : FiledStore :=
  let merged : FiledStore := { host with store := host.store.merge metrics }
  if keepsFile then merged.save.2 else merged

/-- What a write of metrics leaves behind; without metrics nothing happens. -/
def written (keepsFile : Bool) (host : FiledStore) (metrics : List Metric) : FiledStore :=
  if metrics.isEmpty then host else host.mergeAndKeep keepsFile metrics

theorem save_eq (store : MemoryStore) {file : SnapshotFile} (writable : file.isWritable = true) :
    save ⟨store, some file⟩ =
      (.ok (), ⟨store, some ⟨file.path, .content store.snapshot.write⟩⟩) := by
  simp only [save, store.save_eq writable]

theorem store_save (host : FiledStore) : host.save.2.store = host.store := by
  unfold save
  cases host.file with
  | none => rfl
  | some file =>
    cases saved : host.store.save file with
    | ok written => simp only [saved]
    | error error => simp only [saved]

theorem store_written (keepsFile : Bool) (host : FiledStore) (metrics : List Metric) :
    (host.written keepsFile metrics).store = host.store.merge metrics := by
  unfold written mergeAndKeep
  cases metrics with
  | nil => rfl
  | cons metric rest =>
    cases keepsFile with
    | false => rfl
    | true => exact store_save _

end FiledStore

/-! ### Work that may fail -/

section Fallible

variable {ε σ α β : Type} {state next : σ} {first : ExceptT ε (StateM σ) α}

theorem run_bind_ok {answer : α} (rest : α → ExceptT ε (StateM σ) β)
    (done : first.run state = (.ok answer, next)) :
    (first >>= rest).run state = (rest answer).run next := by
  change (ExceptT.bind first rest) state = _
  simp only [ExceptT.bind, ExceptT.mk, bind, StateT.bind]
  rw [show first state = (.ok answer, next) from done]
  rfl

theorem run_bind_error {error : ε} (rest : α → ExceptT ε (StateM σ) β)
    (failed : first.run state = (.error error, next)) :
    (first >>= rest).run state = (.error error, next) := by
  change (ExceptT.bind first rest) state = _
  simp only [ExceptT.bind, ExceptT.mk, bind, StateT.bind]
  rw [show first state = (.error error, next) from failed]
  rfl

/-- Work that succeeds has succeeded in both of its parts. -/
theorem exists_of_run_bind_ok {rest : α → ExceptT ε (StateM σ) β} {answer : β}
    (done : (first >>= rest).run state = (.ok answer, next)) :
    ∃ value middle, first.run state = (.ok value, middle) ∧
      (rest value).run middle = (.ok answer, next) := by
  cases begun : first.run state with
  | mk result middle =>
    cases result with
    | error error =>
      rw [run_bind_error rest begun] at done
      cases done
    | ok value =>
      rw [run_bind_ok rest begun] at done
      exact ⟨value, middle, rfl, done⟩

end Fallible

/-! ### Writes -/

namespace Service

variable {σ α : Type}

theorem attempt_eq_ok (service : Service σ) {operation : StoreOperation σ α}
    {session : Session σ} {answer : α} {next : σ}
    (succeeds : operation session.now session.store = (.ok answer, next)) :
    (service.attempt operation).run session = (.ok answer, { session with store := next }) := by
  have outcome : service.backoff.retry none operation session.now session.store =
      ⟨.ok answer, next, session.now, []⟩ := by
    unfold Backoff.retry Backoff.retryFrom
    rw [succeeds]
  simp only [attempt, ExceptT.run, ExceptT.mk, outcome, List.append_nil]
  rfl

def server (backoff : Backoff) (keepsFile : Bool) : Service ServerStore :=
  ⟨Backend.server, backoff, keepsFile⟩

variable {backoff : Backoff} {keepsFile : Bool} {session : Session ServerStore}
  {host : FiledStore}

theorem afterWrite_eq (able : host.CanKeep keepsFile) (held : session.store = .memory host) :
    ((server backoff keepsFile).afterWrite).run session =
      (.ok (), { session with
        store := .memory (if keepsFile then host.save.2 else host) }) := by
  cases keepsFile with
  | false =>
    rw [if_neg (by decide), ← held]
    rfl
  | true =>
    obtain ⟨file, filed, writable⟩ := able rfl
    obtain ⟨store, filed_⟩ := host
    cases filed
    rw [if_pos rfl]
    apply attempt_eq_ok
    rw [held]
    simp only [server, Backend.server, ServerStore.through, Backend.memory,
      FiledStore.save_eq store writable]

theorem attempt_merging_eq {α : Type} (held : session.store = .memory host)
    {operation : StoreOperation ServerStore α} {answer : α} {metrics : List Metric}
    (merges : operation session.now (.memory host) =
      (.ok answer, .memory { host with store := host.store.merge metrics })) :
    ((server backoff keepsFile).attempt operation).run session =
      (.ok answer, { session with
        store := .memory { host with store := host.store.merge metrics } }) := by
  apply attempt_eq_ok
  rw [held, merges]

theorem afterWrite_merged_eq (able : host.CanKeep keepsFile) (metrics : List Metric) :
    ((server backoff keepsFile).afterWrite).run { session with
        store := .memory { host with store := host.store.merge metrics } } =
      (.ok (), { session with store := .memory (host.mergeAndKeep keepsFile metrics) }) := by
  have stillAble : FiledStore.CanKeep keepsFile { host with store := host.store.merge metrics } :=
    able
  rw [afterWrite_eq stillAble rfl]
  rfl

theorem check_ok_run {α : Type} (value : α) :
    (check (.ok value) : Serving ServerStore α).run session = (.ok value, session) :=
  rfl

theorem update_merges (host : FiledStore) (metric : Metric) (now : Nat) :
    Backend.server.update metric now (.memory host) =
      (.ok (host.store.update metric).1,
        .memory { host with store := host.store.merge [metric] }) :=
  rfl

theorem updateAll_merges (host : FiledStore) (metrics : List Metric) (now : Nat) :
    Backend.server.updateAll metrics now (.memory host) =
      (.ok (), .memory { host with store := host.store.merge metrics }) := by
  rw [← MemoryStore.updateAll_eq_merge]
  rfl

/-- A batch is merged as a whole or not at all. -/
theorem updateBatch_eq (able : host.CanKeep keepsFile) (held : session.store = .memory host)
    (envelopes : List Envelope) :
    ((server backoff keepsFile).updateBatch envelopes).run session =
      match Envelope.metrics envelopes with
      | .error error => (.error (.invalid error), session)
      | .ok metrics =>
        (.ok (), { session with store := .memory (host.written keepsFile metrics) }) := by
  unfold updateBatch
  cases read : Envelope.metrics envelopes with
  | error error => exact run_bind_error _ rfl
  | ok metrics =>
    rw [run_bind_ok _ (check_ok_run metrics)]
    cases metrics with
    | nil =>
      change (Except.ok (), session) = (Except.ok (), { session with store := .memory host })
      rw [← held]
    | cons metric rest =>
      have merges := updateAll_merges host (metric :: rest) session.now
      refine (run_bind_ok _ (attempt_merging_eq held merges)).trans ?_
      exact afterWrite_merged_eq able (metric :: rest)

theorem updateOne_eq (able : host.CanKeep keepsFile) (held : session.store = .memory host)
    (envelope : Envelope) :
    ((server backoff keepsFile).updateOne envelope).run session =
      match envelope.metric with
      | .error error => (.error (.invalid error), session)
      | .ok metric =>
        (.ok (Envelope.ofMetric (host.store.update metric).1),
          { session with store := .memory (host.mergeAndKeep keepsFile [metric]) }) := by
  unfold updateOne
  cases read : envelope.metric with
  | error error => exact run_bind_error _ rfl
  | ok metric =>
    have merges := update_merges host metric session.now
    rw [run_bind_ok _ (check_ok_run metric)]
    refine (run_bind_ok _ (attempt_merging_eq held merges)).trans ?_
    rw [run_bind_ok _ (afterWrite_merged_eq able [metric])]
    rfl

theorem updateWords_eq (able : host.CanKeep keepsFile) (held : session.store = .memory host)
    (kind name value : String) :
    ((server backoff keepsFile).updateWords kind name value).run session =
      match metricOfWords kind name value with
      | .error error => (.error (.invalid error), session)
      | .ok metric =>
        (.ok (), { session with store := .memory (host.mergeAndKeep keepsFile [metric]) }) := by
  unfold updateWords
  cases read : metricOfWords kind name value with
  | error error => exact run_bind_error _ rfl
  | ok metric =>
    have merges := update_merges host metric session.now
    rw [run_bind_ok _ (check_ok_run metric)]
    refine (run_bind_ok _ (attempt_merging_eq held merges)).trans ?_
    exact afterWrite_merged_eq able [metric]

end Service

end Telemetry
