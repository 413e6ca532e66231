import Telemetry.Proofs.Readings
import Telemetry.Proofs.Synchrony
import Telemetry.Proofs.Texts
/-!
The names that a service lists. They are those of the metrics that can be looked up, each once and
in the order of their octets, on the index page as in the answer to a call (`Service.Lists`). So it
does not matter in which order the store enumerates its entries. Nor does it matter in which order
the metrics came: what a call adds to the names is decided by the call and by the store that the
calls began with (`ServerStore.Grows`), for a store in memory and for one in a database. All of it
is `Service.lists_names`.
-/

namespace Telemetry

open Database (seededId)

/-! ### Names -/

namespace NameMap

variable {α : Type}

theorem mem_names_iff (map : NameMap α) (name : String) :
    name ∈ map.names ↔ (map.find? name).isSome = true := by
  rw [names, List.mem_map, Option.isSome_iff_exists]
  constructor
  · rintro ⟨⟨_name, value⟩, member, rfl⟩
    exact ⟨value, map.find?_eq_some_iff.mpr member⟩
  · rintro ⟨value, found⟩
    exact ⟨(name, value), map.find?_eq_some_iff.mp found, rfl⟩

/-- Names are in the order of their octets. -/
theorem names_ascending (map : NameMap α) :
    map.names.Pairwise fun left right => Bytes.ofText left < Bytes.ofText right :=
  List.pairwise_map.mpr (map.ordered.imp fun below => Bytes.ofText_lt_iff.mpr below)

end NameMap

namespace Service

theorem mem_namesOf_iff (metrics : List Metric) (name : String) :
    name ∈ namesOf metrics ↔ ∃ metric ∈ metrics, metric.name = name := by
  rw [namesOf, NameMap.mem_names_iff, NameMap.find?_ofList, Option.isSome_map, List.find?_isSome]
  simp only [List.mem_reverse, List.mem_map, beq_iff_eq]
  constructor
  · rintro ⟨_entry, ⟨metric, member, rfl⟩, named⟩
    exact ⟨metric, member, named⟩
  · rintro ⟨metric, member, named⟩
    exact ⟨_, ⟨metric, member, rfl⟩, named⟩

/-- The list of names depends on the set of names alone. -/
theorem namesOf_eq {left right : List Metric}
    (same : ∀ name, (∃ metric ∈ left, metric.name = name) ↔
      ∃ metric ∈ right, metric.name = name) : namesOf left = namesOf right := by
  have maps : NameMap.ofList (left.map fun metric => (metric.name, ())) =
      NameMap.ofList (right.map fun metric => (metric.name, ())) := by
    apply NameMap.ext_find?
    intro name
    have sides := same name
    rw [← mem_namesOf_iff, ← mem_namesOf_iff, namesOf, namesOf, NameMap.mem_names_iff,
      NameMap.mem_names_iff] at sides
    cases before : (NameMap.ofList (left.map fun metric => (metric.name, ()))).find? name with
    | some _ =>
      rw [before] at sides
      exact (Option.isSome_iff_exists.mp (sides.mp rfl)).elim fun _unit found => found.symm
    | none =>
      rw [before] at sides
      exact (Option.not_isSome_iff_eq_none.mp fun found => nomatch sides.mpr found).symm
  rw [namesOf, namesOf, maps]

end Service

/-! ### What a store holds -/

namespace ServerStore

/-- A store as a server reaches it: any in memory, or a connection that has been reached. -/
def Reached : ServerStore → Prop
  | .memory _ => True
  | .table store => store.Reached

/-- A store on which look-ups and the listing agree. -/
def Sound : ServerStore → Prop
  | .memory _ => True
  | .table store => store.Sound

def Holds (state : ServerStore) (kind : Kind) (name : String) : Prop :=
  match state with
  | .memory host => (host.store.find? kind name).isSome = true
  | .table store => (store.database.value? name (seededId kind)).isSome = true

theorem Reached.sound {state : ServerStore} (reached : state.Reached) : state.Sound := by
  cases state with
  | memory host => trivial
  | table store => exact TableStore.Reached.sound reached

/-- A look-up finds what the store holds, and otherwise fails for good. -/
theorem Sound.get {state : ServerStore} (sound : state.Sound) (kind : Kind) (name : String) :
    (state.Holds kind name ∧ ∃ sample : Sample, sample.kind = kind ∧ ∀ now,
        Backend.server.get kind name now state = (.ok ⟨name, sample⟩, state)) ∨
      (¬ state.Holds kind name ∧ ∀ now,
        Backend.server.get kind name now state = (.error (.notFound kind name), state)) := by
  cases state with
  | memory host =>
    simp only [Holds, Backend.server, through, Backend.memory, MemoryStore.get]
    cases held : host.store.find? kind name with
    | some sample =>
      exact .inl ⟨rfl, sample, MemoryStore.kind_of_find? held, fun _now => rfl⟩
    | none => exact .inr ⟨Bool.false_ne_true, fun _now => rfl⟩
  | table store =>
    simp only [Holds, Backend.server, through, Backend.table, TableStore.Sound.get_eq sound]
    cases store.database.value? name (seededId kind) with
    | some value =>
      exact .inl ⟨rfl, _, TableStore.kind_sampleOf kind value, fun _now => rfl⟩
    | none => exact .inr ⟨Bool.false_ne_true, fun _now => rfl⟩

/-- What is listed is what is found under its kind and name. -/
theorem Sound.list {state : ServerStore} (sound : state.Sound) :
    ∃ listed, (∀ now, Backend.server.list now state = (.ok listed, state)) ∧
      ∀ metric now, metric ∈ listed ↔
        Backend.server.get metric.kind metric.name now state = (.ok metric, state) := by
  have answered : ∀ answer : Except StorageError Metric, ∀ metric,
      (answer, state) = (.ok metric, state) ↔ answer = .ok metric := by
    intro answer metric
    rw [Prod.mk.injEq, and_iff_left rfl]
  cases state with
  | memory host =>
    refine ⟨host.store.list, fun _now => rfl, fun metric _now => ?_⟩
    exact (host.store.mem_list_iff metric).trans (answered _ metric).symm
  | table store =>
    have sound : store.Sound := sound
    refine ⟨store.listing, fun _now => congrArg (·, table store) sound.list_eq, ?_⟩
    intro metric _now
    exact (sound.mem_listing_iff metric).trans (answered _ metric).symm

/-- The listing names what the store holds. -/
theorem Sound.names {state : ServerStore} (sound : state.Sound) :
    ∃ listed, (∀ now, Backend.server.list now state = (.ok listed, state)) ∧
      ∀ name, (∃ metric ∈ listed, metric.name = name) ↔ ∃ kind, state.Holds kind name := by
  obtain ⟨listed, answered, found⟩ := sound.list
  refine ⟨listed, answered, fun name => ?_⟩
  constructor
  · rintro ⟨metric, member, rfl⟩
    have looked := (found metric 0).mp member
    rcases sound.get metric.kind metric.name with ⟨held, _found⟩ | ⟨_absent, missing⟩
    · exact ⟨metric.kind, held⟩
    · rw [missing 0] at looked
      cases looked
  · rintro ⟨kind, held⟩
    rcases sound.get kind name with ⟨_held, sample, same, looked⟩ | ⟨absent, _missing⟩
    · subst same
      exact ⟨⟨name, sample⟩, (found _ 0).mpr (looked 0), rfl⟩
    · exact absurd held absent

end ServerStore

/-! ### What a service answers -/

/-- A way to enumerate a store: what it lists, in any order. -/
def Enumerates (list : StoreOperation ServerStore (List Metric)) : Prop :=
  ∀ now state listed, Backend.server.list now state = (.ok listed, state) →
    ∃ others : List Metric, others.Perm listed ∧ list now state = (.ok others, state)

namespace Service

/-- The service of a server whose store is enumerated in some way. -/
def enumerating (list : StoreOperation ServerStore (List Metric)) (backoff : Backoff)
    (keepsFile : Bool) : Service ServerStore :=
  ⟨{ Backend.server with list }, backoff, keepsFile⟩

/-- What a service in a session answers about names: a list without repetitions, in the order of the
octets, of all names that can be looked up. The index page and the answer to a call have that
list. -/
structure Lists (service : Service ServerStore) (session : Session ServerStore)
    (names : List String) : Prop where
  answered : service.names.run session = (.ok names, session)
  ascending : names.Pairwise fun left right => Bytes.ofText left < Bytes.ofText right
  found : ∀ name, name ∈ names ↔
    ∃ kind metric, (service.getOne ⟨name, Kind.word kind⟩).run session = (.ok metric, session)
  joined : service.index.run session = (.ok (",\n".intercalate names), session)
  page : ∀ request, (Http.Endpoint.answer service request .index).run session =
    (.ofBytes 200 Http.Response.pageType (Bytes.ofText (",\n".intercalate names)), session)
  called : (Rpc.perform service .getMetrics).run session = (.ok (.names names), session)

/-- An operation that fails and leaves the store as it is does so however often it is tried. -/
theorem attempt_fails {σ α : Type} (service : Service σ) {operation : StoreOperation σ α}
    {session : Session σ} {error : StorageError}
    (fails : ∀ now, operation now session.store = (.error error, session.store)) :
    ((service.attempt operation).run session).1 = .error (.ofStorage error) ∧
      ((service.attempt operation).run session).2.store = session.store := by
  have keeps : ∀ now state, state = session.store →
      (operation now state).1 = .error error ∧ (operation now state).2 = session.store := by
    rintro now _ rfl
    rw [fails]
    exact ⟨rfl, rfl⟩
  obtain ⟨failed, kept⟩ := Backoff.retryFrom_keeps (fun result => result = .error error)
    (fun state => state = session.store) keeps 1 service.backoff.delays session.now rfl
  exact ⟨congrArg (Except.mapError ServiceError.ofStorage) failed, kept⟩

section Answers

variable {session : Session ServerStore} (sound : session.store.Sound)
  (list : StoreOperation ServerStore (List Metric)) (backoff : Backoff) (keepsFile : Bool)

include sound

/-- A look-up by the service finds what the store holds. -/
theorem getOne_iff (kind : Kind) (name : String) :
    (∃ metric, ((enumerating list backoff keepsFile).getOne ⟨name, kind.word⟩).run session =
      (.ok metric, session)) ↔ session.store.Holds kind name := by
  have asked : (enumerating list backoff keepsFile).getOne ⟨name, kind.word⟩ =
      (enumerating list backoff keepsFile).attempt (Backend.server.get kind name) := by
    simp only [getOne, Envelope.ofText_word]
    rfl
  rw [asked]
  rcases sound.get kind name with ⟨held, sample, _same, looked⟩ | ⟨absent, missing⟩
  · have answered := attempt_eq_ok (enumerating list backoff keepsFile) (looked session.now)
    exact ⟨fun _found => held, fun _held => ⟨_, answered⟩⟩
  · refine ⟨?_, fun held => absurd held absent⟩
    rintro ⟨metric, found⟩
    have failed := (attempt_fails (enumerating list backoff keepsFile) missing).1
    rw [found] at failed
    cases failed

/-- The names that are held are listed, however the store is enumerated. -/
theorem lists_of_holds (enumerates : Enumerates list) {metrics : List Metric}
    (holds : ∀ name, (∃ metric ∈ metrics, metric.name = name) ↔
      ∃ kind, session.store.Holds kind name) :
    (enumerating list backoff keepsFile).Lists session (namesOf metrics) := by
  obtain ⟨listed, answered, named⟩ := sound.names
  obtain ⟨others, same, enumerated⟩ := enumerates session.now session.store listed (answered _)
  have names : namesOf others = namesOf metrics := by
    apply namesOf_eq
    intro name
    rw [holds, ← named]
    exact exists_congr fun metric => and_congr_left fun _named => same.mem_iff
  have run : (enumerating list backoff keepsFile).names.run session =
      (.ok (namesOf metrics), session) := by
    rw [← names]
    exact run_bind_ok _ (attempt_eq_ok _ enumerated)
  have index : (enumerating list backoff keepsFile).index.run session =
      (.ok (",\n".intercalate (namesOf metrics)), session) := run_bind_ok _ run
  have served : (Rpc.serve (enumerating list backoff keepsFile).names).run session =
      (.ok (namesOf metrics), session) := by
    rw [Rpc.serve_run, run]
    rfl
  exact {
    answered := run
    ascending := NameMap.names_ascending _
    found := by
      intro name
      rw [mem_namesOf_iff, holds]
      exact exists_congr fun kind => (getOne_iff sound list backoff keepsFile kind name).symm
    joined := index
    page := fun _request => Http.Endpoint.respond_ok (run_bind_ok _ index)
    called := run_bind_ok _ served }

end Answers

end Service

/-! ### Updates of a database -/

namespace TableStore

/-- The metrics that are merged of some that come as one: all or, if a rule refuses a row for one of
them, none. -/
def taken (store : TableStore) (metrics : List Metric) : List Metric :=
  if metrics.any store.refuses then [] else metrics

/-- A database after it has taken metrics: it holds one more name for each of them, and there is no
rule that was not there before. -/
structure Grown (store : TableStore) (metrics : List Metric) (after : TableStore) : Prop where
  sound : after.Sound
  ruled : after.database.refused = store.database.refused
  free : ∀ metric ∈ metrics, store.refuses metric = false
  holds : ∀ kind name, (after.database.value? name (seededId kind)).isSome = true ↔
    (store.database.value? name (seededId kind)).isSome = true ∨
      ∃ metric ∈ metrics, metric.concerns kind name = true

variable {store middle after : TableStore} {metrics later : List Metric}

theorem concerns_iff_key (metric : Metric) (kind : Kind) (name : String) :
    metric.concerns kind name = true ↔
      (name, seededId kind) = (metric.name, seededId metric.kind) := by
  rw [Metric.concerns_eq_true, Prod.mk.injEq]
  constructor
  · rintro ⟨rfl, rfl⟩
    exact ⟨rfl, rfl⟩
  · rintro ⟨rfl, numbered⟩
    exact ⟨(Database.seededId_inj numbered).symm, rfl⟩

theorem Sound.refuses_eq (sound : store.Sound) (metric : Metric) :
    store.refuses metric =
      ((store.database.value? metric.name (seededId metric.kind)).isNone &&
        store.database.refused.contains metric.name) := by
  rw [refuses, sound.kindId]

theorem Sound.grown_nil (sound : store.Sound) : store.Grown [] store where
  sound := sound
  ruled := rfl
  free := nofun
  holds := by
    intro kind name
    simp

/-- What a rule refuses, it refuses however the database has grown. -/
theorem Grown.refuses_eq (grown : store.Grown metrics after) (sound : store.Sound) :
    after.refuses = store.refuses := by
  funext metric
  rw [grown.sound.refuses_eq, sound.refuses_eq, grown.ruled]
  cases ruled : store.database.refused.contains metric.name with
  | false => rw [Bool.and_false, Bool.and_false]
  | true =>
    have covered : (∃ other ∈ metrics, other.concerns metric.kind metric.name = true) →
        (store.database.value? metric.name (seededId metric.kind)).isSome = true := by
      rintro ⟨other, member, concerned⟩
      obtain ⟨kind, name⟩ := Metric.concerns_eq_true.mp concerned
      have free := grown.free other member
      rw [sound.refuses_eq, kind, name, ruled, Bool.and_true] at free
      exact Option.isNone_eq_false_iff.mp free
    have same : (after.database.value? metric.name (seededId metric.kind)).isSome =
        (store.database.value? metric.name (seededId metric.kind)).isSome := by
      rw [Bool.eq_iff_iff, grown.holds]
      exact or_iff_left_of_imp covered
    rw [← Option.not_isSome, ← Option.not_isSome, same]

theorem Grown.trans (first : store.Grown metrics middle) (second : middle.Grown later after)
    (sound : store.Sound) : store.Grown (metrics ++ later) after where
  sound := second.sound
  ruled := second.ruled.trans first.ruled
  free := by
    intro metric member
    rcases List.mem_append.mp member with early | late
    · exact first.free metric early
    · rw [← first.refuses_eq sound]
      exact second.free metric late
  holds := by
    intro kind name
    rw [second.holds, first.holds, or_assoc]
    simp only [List.mem_append, or_and_right, exists_or]

theorem Grown.taken_eq (grown : store.Grown metrics after) (sound : store.Sound)
    (others : List Metric) : after.taken others = store.taken others := by
  rw [taken, taken, grown.refuses_eq sound]

/-- A metric that is acceptable and not refused is merged. -/
theorem Sound.upsert_grown (sound : store.Sound) {metric : Metric}
    (acceptable : metric.isAcceptable = true) (free : store.refuses metric = false) :
    ∃ stored next, store.upsert metric = .ok (stored, next) ∧ store.Grown [metric] next := by
  have number : (columnOf (store.merged metric).sample).isNaN = false := by
    obtain ⟨name, sample⟩ := metric
    cases sample with
    | gauge level =>
      have finite : level.isFinite = true := (Bool.and_eq_true_iff.mp acceptable).2
      rw [show store.merged ⟨name, .gauge level⟩ = _ from store.merged_gauge name level]
      exact Binary64.isNaN_of_isFinite finite
    | counter delta =>
      rw [show store.merged ⟨name, .counter delta⟩ = _ from store.merged_counter name delta]
      exact Binary64.isNaN_ofInt _
  have done := sound.upsert_eq metric
  rw [Database.kept?_eq number, free] at done
  simp only [Bool.false_eq_true, if_false] at done
  refine ⟨_, _, done, ?_⟩
  exact {
    sound := sound.with_database (sound.orderly.put _ _ _)
    ruled := Database.refused_put ..
    free := by
      intro other member
      rwa [List.mem_singleton.mp member]
    holds := by
      intro kind name
      rw [sound.orderly.value?_put]
      simp only [List.mem_singleton, exists_eq_left, concerns_iff_key]
      by_cases same : (name, seededId kind) = (metric.name, seededId metric.kind)
      · rw [if_pos same]
        exact iff_of_true rfl (.inr same)
      · rw [if_neg same, or_iff_left same] }

theorem Sound.upsert_refused (sound : store.Sound) {metric : Metric}
    (refused : store.refuses metric = true) : ∃ error, store.upsert metric = .error error := by
  rw [sound.upsert_eq, refused]
  cases Database.kept? (columnOf (store.merged metric).sample) with
  | none => exact ⟨_, rfl⟩
  | some kept => exact ⟨_, rfl⟩

/-- Metrics of which none is refused are merged one after another, and none of them makes a rule
refuse a later one. -/
theorem Sound.upsertAll_grown (sound : store.Sound) (acceptable : AllAcceptable metrics)
    (free : metrics.any store.refuses = false) :
    ∃ next, store.upsertAll metrics = .ok next ∧ store.Grown metrics next := by
  induction metrics generalizing store with
  | nil => exact ⟨store, rfl, sound.grown_nil⟩
  | cons metric rest ih =>
    rw [List.any_cons, Bool.or_eq_false_iff] at free
    obtain ⟨stored, next, done, grown⟩ :=
      sound.upsert_grown (acceptable metric List.mem_cons_self) free.1
    rw [← grown.refuses_eq sound] at free
    obtain ⟨last, doneAll, grownAll⟩ := ih grown.sound
      (fun other member => acceptable other (List.mem_cons_of_mem _ member)) free.2
    refine ⟨last, ?_, grown.trans grownAll sound⟩
    rw [upsertAll, done]
    exact doneAll

/-- One metric that is refused turns all of them away. -/
theorem Sound.upsertAll_refused (sound : store.Sound) (acceptable : AllAcceptable metrics)
    (refused : metrics.any store.refuses = true) :
    ∃ error, store.upsertAll metrics = .error error := by
  induction metrics generalizing store with
  | nil => cases refused
  | cons metric rest ih =>
    rw [upsertAll]
    cases first : store.refuses metric with
    | true =>
      obtain ⟨error, failed⟩ := sound.upsert_refused first
      rw [failed]
      exact ⟨error, rfl⟩
    | false =>
      obtain ⟨stored, next, done, grown⟩ :=
        sound.upsert_grown (acceptable metric List.mem_cons_self) first
      rw [List.any_cons, first, Bool.false_or, ← grown.refuses_eq sound] at refused
      rw [done]
      exact ih grown.sound (fun other member => acceptable other (List.mem_cons_of_mem _ member))
        refused

end TableStore

/-! ### Calls -/

namespace ServerStore

/-- The metrics that are merged of some that come as one. -/
def taken (state : ServerStore) (metrics : List Metric) : List Metric :=
  match state with
  | .memory _ => metrics
  | .table store => store.taken metrics

/-- A store that has taken metrics; a file may have been written. -/
inductive Grows : ServerStore → List Metric → ServerStore → Prop
  | memory (host : FiledStore) (metrics : List Metric) (file : Option SnapshotFile) :
      Grows (.memory host) metrics (.memory ⟨host.store.merge metrics, file⟩)
  | table {store next : TableStore} {metrics : List Metric} (grown : store.Grown metrics next) :
      Grows (.table store) metrics (.table next)

variable {state middle after : ServerStore} {metrics later : List Metric}

theorem Sound.grows_nil (sound : state.Sound) : state.Grows [] state := by
  cases state with
  | memory host => exact .memory host [] host.file
  | table store => exact .table (TableStore.Sound.grown_nil sound)

theorem Grows.sound (grows : state.Grows metrics after) : after.Sound := by
  cases grows with
  | memory host metrics file => trivial
  | table grown => exact grown.sound

theorem Grows.trans (first : state.Grows metrics middle) (second : middle.Grows later after)
    (sound : state.Sound) : state.Grows (metrics ++ later) after := by
  cases first with
  | memory host metrics file =>
    cases second with
    | memory _ later last =>
      rw [← MemoryStore.merge_append]
      exact .memory host (metrics ++ later) last
  | table grown =>
    cases second with
    | table also => exact .table (grown.trans also sound)

/-- What is taken of some metrics is the same however the store has grown. -/
theorem Grows.taken_eq (grows : state.Grows metrics after) (sound : state.Sound)
    (others : List Metric) : after.taken others = state.taken others := by
  cases grows with
  | memory host metrics file => rfl
  | table grown => exact grown.taken_eq sound others

theorem Grows.holds_iff (grows : state.Grows metrics after) (kind : Kind) (name : String) :
    after.Holds kind name ↔
      state.Holds kind name ∨ ∃ metric ∈ metrics, metric.concerns kind name = true := by
  cases grows with
  | memory host metrics file => exact host.store.isSome_find?_merge metrics kind name
  | table grown => exact grown.holds kind name

theorem taken_nil (state : ServerStore) : state.taken [] = [] := by
  cases state with
  | memory host => rfl
  | table store => rfl

/-- A save, whether or not it succeeds, leaves the store as it is. -/
theorem Grows.save (grows : state.Grows metrics after) (now : Nat) :
    state.Grows metrics (Backend.server.save now after).2 := by
  cases grows with
  | memory host metrics file =>
    have kept : (FiledStore.save ⟨host.store.merge metrics, file⟩).2.store =
        host.store.merge metrics := FiledStore.store_save _
    change Grows _ _ (.memory (FiledStore.save ⟨host.store.merge metrics, file⟩).2)
    generalize (FiledStore.save ⟨host.store.merge metrics, file⟩).2 = saved at kept ⊢
    obtain ⟨store, left⟩ := saved
    obtain rfl : store = host.store.merge metrics := kept
    exact .memory host metrics left
  | table grown => exact .table grown

/-- An operation by which a store takes metrics, or one that fails and takes none. -/
inductive Writes {α : Type} (state : ServerStore) (operation : StoreOperation ServerStore α)
    (metrics : List Metric) : Prop
  | done (does : ∀ now, ∃ answer next, operation now state = (.ok answer, next) ∧
      state.Grows metrics next)
  | failed (fails : ∀ now, (operation now state).2 = state) (nothing : metrics = [])

theorem Sound.update_writes (sound : state.Sound) {metric : Metric}
    (acceptable : metric.isAcceptable = true) :
    state.Writes (Backend.server.update metric) (state.taken [metric]) := by
  cases state with
  | memory host => exact .done fun _now => ⟨_, _, rfl, .memory host [metric] host.file⟩
  | table store =>
    have sound : store.Sound := sound
    simp only [taken, TableStore.taken, List.any_cons, List.any_nil, Bool.or_false]
    cases refused : store.refuses metric with
    | false =>
      obtain ⟨stored, next, upserted, grown⟩ := sound.upsert_grown acceptable refused
      have updated := sound.update_ok upserted
      refine .done fun _now => ⟨stored, .table next, ?_, .table grown⟩
      simp only [Backend.server, through, Backend.table, updated]
    | true =>
      obtain ⟨error, failed⟩ := sound.upsert_refused refused
      refine .failed (fun _now => ?_) rfl
      simp only [Backend.server, through, Backend.table, sound.update_error failed]

theorem Sound.updateAll_writes (sound : state.Sound) (acceptable : AllAcceptable metrics) :
    state.Writes (Backend.server.updateAll metrics) (state.taken metrics) := by
  cases state with
  | memory host =>
    exact .done fun now =>
      ⟨(), _, Service.updateAll_merges host metrics now, .memory host metrics host.file⟩
  | table store =>
    have sound : store.Sound := sound
    simp only [taken, TableStore.taken]
    cases refused : metrics.any store.refuses with
    | false =>
      obtain ⟨next, merged, grown⟩ := sound.upsertAll_grown acceptable refused
      refine .done fun _now => ⟨(), .table next, ?_, .table grown⟩
      simp only [Backend.server, through, Backend.table, TableStore.updateAll_eq, sound.whenOpen,
        merged]
    | true =>
      obtain ⟨error, failed⟩ := sound.upsertAll_refused acceptable refused
      refine .failed (fun _now => ?_) rfl
      simp only [Backend.server, through, Backend.table, TableStore.updateAll_eq, sound.whenOpen,
        failed]

end ServerStore

namespace Service

variable {state : ServerStore} {metrics : List Metric}

/-- What each attempt of an operation keeps of the store, all of them together keep. -/
theorem attempt_keeps {α : Type} (service : Service ServerStore)
    {operation : StoreOperation ServerStore α} {holds : ServerStore → Prop}
    (keeps : ∀ now state, holds state → holds (operation now state).2) :
    Leads (service.attempt operation).run (fun session => holds session.store)
      (fun session => holds session.store) :=
  fun _session held => Backoff.state_retryFrom keeps _ _ _ held

/-- An operation that leaves the store as it is does so however often it is tried. -/
theorem attempt_stays {α : Type} (service : Service ServerStore)
    {operation : StoreOperation ServerStore α} (stays : ∀ now, (operation now state).2 = state) :
    Leads (service.attempt operation).run (fun session => session.store = state)
      (fun session => session.store = state) := by
  have keeps : ∀ now other, other = state → (operation now other).2 = state := by
    rintro now _ rfl
    exact stays now
  exact attempt_keeps service keeps

theorem attempt_grows {α : Type} (service : Service ServerStore)
    {operation : StoreOperation ServerStore α} (sound : state.Sound)
    (writes : state.Writes operation metrics) :
    Leads (service.attempt operation).run (fun session => session.store = state)
      (fun session => state.Grows metrics session.store) := by
  intro session held
  cases writes with
  | done does =>
    obtain ⟨answer, next, done, grown⟩ := does session.now
    rw [← held] at done
    rw [StateT.run, attempt_eq_ok service done]
    exact grown
  | failed fails nothing =>
    have kept := attempt_stays service fails session held
    rw [nothing, kept]
    exact sound.grows_nil

section Calling

variable (list : StoreOperation ServerStore (List Metric)) (backoff : Backoff) (keepsFile : Bool)

theorem afterWrite_grows : Leads (enumerating list backoff keepsFile).afterWrite.run
    (fun session => state.Grows metrics session.store)
    (fun session => state.Grows metrics session.store) := by
  cases keepsFile with
  | false => exact leads_pure _
  | true => exact attempt_keeps _ fun now _after grows => grows.save now

theorem updateOne_grows (sound : state.Sound) (envelope : Envelope) :
    Leads ((enumerating list backoff keepsFile).updateOne envelope).run
      (fun session => session.store = state)
      (fun session => state.Grows (state.taken (Envelope.accepted [envelope])) session.store) := by
  apply Leads.check
  · rintro error refused session rfl
    rw [Envelope.accepted_of_error (by rw [Envelope.metrics_singleton, refused]; rfl),
      ServerStore.taken_nil]
    exact sound.grows_nil
  · intro metric read
    rw [Envelope.accepted_of_ok (by rw [Envelope.metrics_singleton, read]; rfl)]
    refine Leads.andThen ?_ fun _stored => Leads.map (afterWrite_grows list backoff keepsFile) _
    exact attempt_grows _ sound (sound.update_writes (Envelope.isAcceptable_of_metric read))

theorem updateBatch_grows (sound : state.Sound) (envelopes : List Envelope) :
    Leads ((enumerating list backoff keepsFile).updateBatch envelopes).run
      (fun session => session.store = state)
      (fun session => state.Grows (state.taken (Envelope.accepted envelopes)) session.store) := by
  apply Leads.check
  · rintro error refused session rfl
    rw [Envelope.accepted_of_error refused, ServerStore.taken_nil]
    exact sound.grows_nil
  · intro metrics read
    rw [Envelope.accepted_of_ok read]
    cases metrics with
    | nil =>
      rintro session rfl
      rw [ServerStore.taken_nil]
      exact sound.grows_nil
    | cons metric rest =>
      have acceptable := Envelope.allAcceptable_accepted envelopes
      rw [Envelope.accepted_of_ok read] at acceptable
      refine Leads.andThen ?_ fun _done => afterWrite_grows list backoff keepsFile
      exact attempt_grows _ sound (sound.updateAll_writes acceptable)

theorem updateWords_grows (sound : state.Sound) (kind name value : String) :
    Leads ((enumerating list backoff keepsFile).updateWords kind name value).run
      (fun session => session.store = state)
      (fun session => state.Grows
        (state.taken (Call.accepted (.updateWords kind name value))) session.store) := by
  apply Leads.check
  · rintro error refused session rfl
    rw [Call.accepted, refused, ServerStore.taken_nil]
    exact sound.grows_nil
  · intro metric read
    rw [Call.accepted, read]
    refine Leads.andThen ?_ fun _stored => afterWrite_grows list backoff keepsFile
    exact attempt_grows _ sound (sound.update_writes (isAcceptable_of_words read))

theorem getOne_stays (sound : state.Sound) (query : Query) :
    Leads ((enumerating list backoff keepsFile).getOne query).run
      (fun session => session.store = state) (fun session => session.store = state) := by
  unfold getOne
  cases Kind.ofText query.kind with
  | error error => exact leads_pure _
  | ok kind =>
    refine attempt_stays _ fun now => ?_
    rcases sound.get kind query.name with ⟨_held, sample, _same, looked⟩ | ⟨_absent, missing⟩
    · exact congrArg Prod.snd (looked now)
    · exact congrArg Prod.snd (missing now)

theorem names_stays (sound : state.Sound) (enumerates : Enumerates list) :
    Leads (enumerating list backoff keepsFile).names.run
      (fun session => session.store = state) (fun session => session.store = state) := by
  refine Leads.map (attempt_stays _ fun now => ?_) _
  obtain ⟨listed, answered, _named⟩ := sound.names
  obtain ⟨others, _same, enumerated⟩ := enumerates now state listed (answered now)
  exact congrArg Prod.snd enumerated

theorem ping_stays : Leads (enumerating list backoff keepsFile).ping.run
    (fun session => session.store = state) (fun session => session.store = state) := by
  refine attempt_stays _ fun _now => ?_
  cases state <;> rfl

/-- A call makes a store take what is accepted with it. -/
theorem Call.grows {session : Session ServerStore} (sound : session.store.Sound)
    (enumerates : Enumerates list) (call : Call) :
    session.store.Grows (session.store.taken call.accepted)
      (call.after (enumerating list backoff keepsFile) session).store := by
  have read : ∀ after : Session ServerStore, after.store = session.store →
      session.store.Grows (session.store.taken []) after.store := by
    intro after same
    rw [ServerStore.taken_nil, same]
    exact sound.grows_nil
  have named := names_stays list backoff keepsFile sound enumerates
  cases call with
  | updateOne envelope => exact updateOne_grows list backoff keepsFile sound envelope session rfl
  | updateBatch envelopes =>
    exact updateBatch_grows list backoff keepsFile sound envelopes session rfl
  | updateWords kind name value =>
    exact updateWords_grows list backoff keepsFile sound kind name value session rfl
  | getOne query => exact read _ (getOne_stays list backoff keepsFile sound query session rfl)
  | names => exact read _ (named session rfl)
  | index => exact read _ (Leads.map named _ session rfl)
  | ping => exact read _ (ping_stays list backoff keepsFile session rfl)

/-- A store takes what is accepted with calls as it would have taken it at the beginning. -/
theorem afterCalls_grows {session : Session ServerStore} (sound : session.store.Sound)
    (enumerates : Enumerates list) (calls : List Call) :
    session.store.Grows (calls.flatMap fun call => session.store.taken call.accepted)
      ((enumerating list backoff keepsFile).afterCalls session calls).store := by
  induction calls generalizing session with
  | nil => exact sound.grows_nil
  | cons call rest ih =>
    have first := call.grows list backoff keepsFile sound enumerates
    have later := ih first.sound
    simp only [first.taken_eq sound] at later
    exact first.trans later sound

end Calling

/-- Wherever a service has been brought, its answers about names agree with its look-ups. They do
not depend on the order of the calls that brought it there, nor on the order in which its store is
enumerated. -/
theorem lists_names (backoff : Backoff) (keepsFile : Bool) (session : Session ServerStore)
    (reached : session.store.Reached) (calls : List Call) :
    ∃ names, ∀ list, Enumerates list → ∀ others, calls.Perm others →
      (enumerating list backoff keepsFile).Lists
        ((enumerating list backoff keepsFile).afterCalls session others) names := by
  have sound := reached.sound
  have grows := fun list enumerates others =>
    afterCalls_grows list backoff keepsFile sound enumerates others
  -- What is held after the calls in any order is what is held after them in the given one.
  have begun := grows Backend.server.list (fun _now _state listed answered =>
    ⟨listed, List.Perm.refl listed, answered⟩) calls
  obtain ⟨listed, _answered, named⟩ := begun.sound.names
  refine ⟨namesOf listed, fun list enumerates others same => ?_⟩
  have ended := grows list enumerates others
  refine lists_of_holds ended.sound list backoff keepsFile enumerates fun name => ?_
  rw [named]
  refine exists_congr fun kind => ?_
  rw [begun.holds_iff, ended.holds_iff]
  refine or_congr_right (exists_congr fun metric => and_congr_left fun _concerned => ?_)
  exact (same.flatMap_right _).mem_iff

/-- The listing of a store backwards. -/
def backwards : StoreOperation ServerStore (List Metric) := fun now state =>
  ((Backend.server.list now state).1.map List.reverse, (Backend.server.list now state).2)

theorem enumerates_backwards : Enumerates backwards := by
  intro now state listed answered
  refine ⟨listed.reverse, List.reverse_perm listed, ?_⟩
  rw [backwards, answered]
  rfl

/-- A session over tables without a metric. -/
def newSession : Session ServerStore := ⟨.table TableStore.newTables, 0, []⟩

/-- Updates of two names of one kind each, and of one of both kinds. -/
def mixedCalls : List Call :=
  [.updateWords "counter" "hits" "2", .updateOne ⟨"größe", "gauge", some .one, none⟩,
    .updateBatch [⟨"Load", "gauge", some .zero, none⟩, ⟨"hits", "gauge", some .one, none⟩]]

theorem lists_names_mixedCalls :
    newSession.store.Reached ∧
      (enumerating backwards .never false).Lists
        ((enumerating backwards .never false).afterCalls newSession mixedCalls.reverse)
        ["Load", "größe", "hits"] := by
  have reached : newSession.store.Reached := TableStore.Reached.first TableStore.connect_blank
  obtain ⟨names, lists⟩ := lists_names .never false newSession reached mixedCalls
  have listed := lists backwards enumerates_backwards mixedCalls.reverse
    (List.reverse_perm mixedCalls).symm
  have found : ((enumerating backwards .never false).names.run
      ((enumerating backwards .never false).afterCalls newSession mixedCalls.reverse)).1.toOption =
        some ["Load", "größe", "hits"] := by decide +kernel
  have same := congrArg (fun ended => ended.1.toOption) listed.answered
  obtain rfl : names = ["Load", "größe", "hits"] :=
    Option.some.inj (same.symm.trans found)
  exact ⟨reached, listed⟩

end Service

end Telemetry
