import Telemetry.Agent.Cache
import Telemetry.Proofs.Merging
/-!
Aggregation. A store that merges metrics at once, a store that merges them one after another, a
cache that takes every name, and the metrics of each kind and name on their own all come to the
same (`MemoryStore.updateAll_aggregates`). What they come to has a closed form: a level is the last
sample of its name, and a total is the sum of all deltas of its name modulo two to the power 64.
So the order of deltas does not matter, nor that of levels but for the last.
-/

namespace Telemetry

namespace Metric

/-- The level that a metric states for a name, if it is a gauge of that name. -/
def level? (name : String) (metric : Metric) : Option Binary64 :=
  match metric.sample with
  | .gauge level => if metric.name = name then some level else none
  | .counter _ => none

def levels (name : String) (metrics : List Metric) : List Binary64 :=
  metrics.filterMap (level? name)

def concerns (kind : Kind) (name : String) (metric : Metric) : Bool :=
  metric.kind == kind && metric.name == name

/-- What is held after a metric: the metric itself if nothing was held. -/
def absorb (held : Option Metric) (incoming : Metric) : Except MetricError (Option Metric) :=
  match held with
  | none => .ok (some incoming)
  | some stored => (stored.update incoming).map some

/-- Metrics with the same last level for each name and the same deltas for each name. -/
structure SameSamples (left right : List Metric) : Prop where
  levels : ∀ name, (levels name left).getLast? = (levels name right).getLast?
  deltas : ∀ name, (deltas name left).Perm (deltas name right)

theorem sum_eq_of_perm {left right : List Int64} (same : left.Perm right) :
    sum left = sum right := by
  induction same with
  | nil => rfl
  | cons number _same ih => exact congrArg (number.toInt + ·) ih
  | swap first second rest =>
    change second.toInt + (first.toInt + sum rest) = first.toInt + (second.toInt + sum rest)
    omega
  | trans _first _second ihFirst ihSecond => exact ihFirst.trans ihSecond

theorem sum_append (first second : List Int64) :
    sum (first ++ second) = sum first + sum second := by
  induction first with
  | nil => exact (Int.zero_add _).symm
  | cons number rest ih =>
    change number.toInt + sum (rest ++ second) = number.toInt + sum rest + sum second
    rw [ih, Int.add_assoc]

theorem levels_eq_nil {name : String} {metrics : List Metric}
    (absent : ∀ metric ∈ metrics, metric.name ≠ name) : levels name metrics = [] := by
  rw [levels, List.filterMap_eq_nil_iff]
  intro metric member
  unfold level?
  cases metric.sample with
  | gauge level => exact if_neg (absent metric member)
  | counter delta => rfl

theorem deltas_eq_nil {name : String} {metrics : List Metric}
    (absent : ∀ metric ∈ metrics, metric.name ≠ name) : deltas name metrics = [] := by
  rw [deltas, List.filterMap_eq_nil_iff]
  intro metric member
  unfold delta?
  cases metric.sample with
  | gauge level => rfl
  | counter delta => exact if_neg (absent metric member)

/-- Samples need to be compared only under the names that occur. -/
theorem SameSamples.of_names {left right : List Metric} (names : List String)
    (covered : ∀ metric ∈ left ++ right, metric.name ∈ names)
    (levels : ∀ name ∈ names,
      (Metric.levels name left).getLast? = (Metric.levels name right).getLast?)
    (deltas : ∀ name ∈ names, (Metric.deltas name left).Perm (Metric.deltas name right)) :
    SameSamples left right := by
  have absent : ∀ name, name ∉ names → ∀ metric ∈ left ++ right, metric.name ≠ name := by
    rintro _ outside metric member rfl
    exact outside (covered metric member)
  constructor
  · intro name
    by_cases known : name ∈ names
    · exact levels name known
    · rw [levels_eq_nil fun metric member =>
          absent name known metric (List.mem_append_left right member),
        levels_eq_nil fun metric member =>
          absent name known metric (List.mem_append_right left member)]
  · intro name
    by_cases known : name ∈ names
    · exact deltas name known
    · rw [deltas_eq_nil fun metric member =>
          absent name known metric (List.mem_append_left right member),
        deltas_eq_nil fun metric member =>
          absent name known metric (List.mem_append_right left member)]

theorem concerns_eq_true {kind : Kind} {name : String} {metric : Metric} :
    metric.concerns kind name = true ↔ metric.kind = kind ∧ metric.name = name := by
  rw [concerns, Bool.and_eq_true, beq_iff_eq, beq_iff_eq]

theorem exists_concerns_iff (name : String) (metrics : List Metric) :
    (∃ metric ∈ metrics, metric.concerns .counter name = true) ↔ deltas name metrics ≠ [] := by
  have concerned : ∀ metric : Metric,
      metric.concerns .counter name = true ↔ metric.delta? name ≠ none := by
    intro metric
    obtain ⟨stated, sample⟩ := metric
    rw [concerns_eq_true]
    cases sample with
    | gauge level => simp [delta?, kind, Sample.kind]
    | counter delta => simp [delta?, kind, Sample.kind]
  simp only [deltas, ne_eq, List.filterMap_eq_nil_iff, Classical.not_forall, exists_prop]
  exact exists_congr fun metric => and_congr_right fun _member => concerned metric

end Metric

namespace MemoryStore

/-! ### One metric -/

/-- The metric of a kind and a name as it is stored. -/
def held? (store : MemoryStore) (kind : Kind) (name : String) : Option Metric :=
  (store.find? kind name).map (Metric.mk name)

theorem kind_of_find? {store : MemoryStore} {kind : Kind} {name : String} {sample : Sample}
    (held : store.find? kind name = some sample) : sample.kind = kind := by
  cases kind with
  | gauge =>
    obtain ⟨level, _inside, rfl⟩ := Option.map_eq_some_iff.mp held
    rfl
  | counter =>
    obtain ⟨total, _inside, rfl⟩ := Option.map_eq_some_iff.mp held
    rfl

theorem get_eq_ok_iff (store : MemoryStore) {kind : Kind} {name : String} {metric : Metric} :
    store.get kind name = .ok metric ↔
      metric.kind = kind ∧ metric.name = name ∧ store.find? kind name = some metric.sample := by
  rw [get]
  constructor
  · intro found
    cases held : store.find? kind name with
    | none =>
      rw [held] at found
      cases found
    | some sample =>
      rw [held] at found
      cases found
      exact ⟨kind_of_find? held, rfl, rfl⟩
  · rintro ⟨_kind, rfl, held⟩
    rw [held]

/-- A metric leaves everything else as it is. -/
theorem find?_update_of_not_concerns (store : MemoryStore) {metric : Metric} {kind : Kind}
    {name : String} (other : metric.concerns kind name = false) :
    (store.update metric).2.find? kind name = store.find? kind name := by
  obtain ⟨stated, sample⟩ := metric
  have apart : (Metric.mk stated sample).kind = kind → name ≠ stated := by
    rintro same rfl
    rw [Metric.concerns_eq_true.mpr ⟨same, rfl⟩] at other
    cases other
  cases sample with
  | gauge level =>
    cases kind with
    | gauge =>
      have kept : (store.gauges.insert stated level).find? name = store.gauges.find? name := by
        rw [NameMap.find?_insert, if_neg (apart rfl)]
      exact congrArg (Option.map Sample.gauge) kept
    | counter => rfl
  | counter delta =>
    cases kind with
    | gauge => rfl
    | counter =>
      have kept : (store.counters.insert stated (totalAfter store.counters stated delta)).find?
          name = store.counters.find? name := by
        rw [NameMap.find?_insert, if_neg (apart rfl)]
      exact congrArg (Option.map Sample.counter) kept

/-- Under its own kind and name a metric is stored as the store answers it. -/
theorem find?_update_self (store : MemoryStore) (metric : Metric) :
    (store.update metric).2.find? metric.kind metric.name =
      some (store.update metric).1.sample := by
  obtain ⟨name, sample⟩ := metric
  cases sample with
  | gauge level =>
    have found : (store.gauges.insert name level).find? name = some level := by
      rw [NameMap.find?_insert, if_pos rfl]
    exact congrArg (Option.map Sample.gauge) found
  | counter delta =>
    have found : (store.counters.insert name (totalAfter store.counters name delta)).find? name =
        some (totalAfter store.counters name delta) := by
      rw [NameMap.find?_insert, if_pos rfl]
    exact congrArg (Option.map Sample.counter) found

/-- Under its own kind and name a store merges a metric as two metrics are merged. -/
theorem absorb_held? (store : MemoryStore) (metric : Metric) :
    Metric.absorb (store.held? metric.kind metric.name) metric =
      .ok ((store.update metric).2.held? metric.kind metric.name) := by
  have after : (store.update metric).2.held? metric.kind metric.name =
      some ⟨metric.name, (store.update metric).1.sample⟩ :=
    congrArg (Option.map (Metric.mk metric.name)) (store.find?_update_self metric)
  rw [after]
  obtain ⟨name, sample⟩ := metric
  cases sample with
  | gauge level =>
    change Metric.absorb (store.held? .gauge name) ⟨name, .gauge level⟩ = .ok (some ⟨name, _⟩)
    rw [held?, find?]
    cases store.gauges.find? name with
    | none => rfl
    | some old => simp [Metric.absorb, Metric.update, Sample.merge, Except.map, update]
  | counter delta =>
    change Metric.absorb (store.held? .counter name) ⟨name, .counter delta⟩ = .ok (some ⟨name, _⟩)
    rw [held?, find?]
    cases held : store.counters.find? name with
    | none => simp [Metric.absorb, update, totalAfter, held, Metric.counter]
    | some old =>
      simp [Metric.absorb, Metric.update, Sample.merge, Except.map, update, totalAfter, held,
        Metric.counter]

/-! ### Many metrics -/

/-- The metrics of one kind and name, merged on their own into what is held of them. -/
theorem foldlM_absorb (store : MemoryStore) (metrics : List Metric) (kind : Kind) (name : String) :
    (metrics.filter (Metric.concerns kind name)).foldlM Metric.absorb (store.held? kind name) =
      .ok ((store.merge metrics).held? kind name) := by
  induction metrics generalizing store with
  | nil => rfl
  | cons metric rest ih =>
    have later := ih (store.update metric).2
    cases concerned : metric.concerns kind name with
    | true =>
      obtain ⟨rfl, rfl⟩ := Metric.concerns_eq_true.mp concerned
      rw [List.filter_cons_of_pos concerned, List.foldlM_cons, absorb_held?]
      exact later
    | false =>
      have kept : (store.update metric).2.held? kind name = store.held? kind name :=
        congrArg (Option.map (Metric.mk name)) (store.find?_update_of_not_concerns concerned)
      rw [List.filter_cons_of_neg (by rw [concerned]; decide), ← kept]
      exact later

theorem find?_merge_of_not_concerns (store : MemoryStore) {metrics : List Metric} {kind : Kind}
    {name : String} (others : ∀ metric ∈ metrics, metric.concerns kind name = false) :
    (store.merge metrics).find? kind name = store.find? kind name := by
  induction metrics generalizing store with
  | nil => rfl
  | cons metric rest ih =>
    have later := ih (store.update metric).2 fun next member =>
      others next (List.mem_cons_of_mem _ member)
    exact later.trans (store.find?_update_of_not_concerns (others metric List.mem_cons_self))

/-- The level of a name is the last one that was stated for it, or else what it was. -/
theorem find?_merge_gauges (store : MemoryStore) (metrics : List Metric) (name : String) :
    (store.merge metrics).gauges.find? name =
      (Metric.levels name metrics).getLast?.or (store.gauges.find? name) := by
  induction metrics generalizing store with
  | nil => rfl
  | cons metric rest ih =>
    obtain ⟨stated, sample⟩ := metric
    have step : store.merge (⟨stated, sample⟩ :: rest) =
        (store.update ⟨stated, sample⟩).2.merge rest := rfl
    rw [step, ih]
    cases sample with
    | counter delta => rfl
    | gauge level =>
      have after : (store.update ⟨stated, .gauge level⟩).2.gauges.find? name =
          if name = stated then some level else store.gauges.find? name :=
        NameMap.find?_insert store.gauges stated name level
      rw [after]
      by_cases same : name = stated
      · have levels : Metric.levels name (⟨stated, .gauge level⟩ :: rest) =
            level :: Metric.levels name rest :=
          List.filterMap_cons_some (if_pos same.symm)
        rw [if_pos same, levels, List.getLast?_cons]
        cases (Metric.levels name rest).getLast? <;> rfl
      · have levels : Metric.levels name (⟨stated, .gauge level⟩ :: rest) =
            Metric.levels name rest :=
          List.filterMap_cons_none (if_neg (Ne.symm same))
        rw [if_neg same, levels]

/-- Something is held of a kind and a name if it was before or if a metric concerned them. -/
theorem isSome_find?_merge (store : MemoryStore) (metrics : List Metric) (kind : Kind)
    (name : String) :
    ((store.merge metrics).find? kind name).isSome = true ↔
      (store.find? kind name).isSome = true ∨
        ∃ metric ∈ metrics, metric.concerns kind name = true := by
  induction metrics generalizing store with
  | nil =>
    constructor
    · exact .inl
    · rintro (held | ⟨metric, absent, _concerned⟩)
      · exact held
      · cases absent
  | cons metric rest ih =>
    have later := ih (store.update metric).2
    cases concerned : metric.concerns kind name with
    | true =>
      obtain ⟨rfl, rfl⟩ := Metric.concerns_eq_true.mp concerned
      have first : ((store.update metric).2.find? metric.kind metric.name).isSome = true := by
        rw [find?_update_self]
        rfl
      exact ⟨fun _held => .inr ⟨metric, List.mem_cons_self, concerned⟩,
        fun _any => later.mpr (.inl first)⟩
    | false =>
      rw [store.find?_update_of_not_concerns concerned] at later
      refine later.trans (or_congr_right ?_)
      constructor
      · rintro ⟨next, member, about⟩
        exact ⟨next, List.mem_cons_of_mem _ member, about⟩
      · rintro ⟨next, member, about⟩
        rcases List.mem_cons.mp member with rfl | inside
        · rw [concerned] at about
          cases about
        · exact ⟨next, inside, about⟩

theorem ext_maps {left right : MemoryStore} (gauges : left.gauges = right.gauges)
    (counters : left.counters = right.counters) : left = right := by
  cases left
  cases right
  cases gauges
  cases counters
  rfl

/-- What the maps hold depends on the metrics by their last levels and their deltas alone. -/
theorem merge_eq_of_sameSamples (store : MemoryStore) {left right : List Metric}
    (same : Metric.SameSamples left right) : store.merge left = store.merge right := by
  have gauges : (store.merge left).gauges = (store.merge right).gauges := by
    apply NameMap.ext_find?
    intro name
    rw [find?_merge_gauges, find?_merge_gauges, same.levels name]
  have counters : (store.merge left).counters = (store.merge right).counters := by
    apply NameMap.ext_find?
    intro name
    have deltas := same.deltas name
    rw [find?_merge_counters, find?_merge_counters, Metric.sum_eq_of_perm deltas]
    by_cases none_ : Metric.deltas name left = []
    · rw [if_pos none_, if_pos (List.nil_perm.mp (none_ ▸ deltas))]
    · have others : Metric.deltas name right ≠ [] := fun empty =>
        none_ (List.perm_nil.mp (empty ▸ deltas))
      rw [if_neg none_, if_neg others]
  exact ext_maps gauges counters

end MemoryStore

/-! ### Caches -/

namespace MetricCache

/-- A cache that takes every name, with the content of a store. -/
def holding (store : MemoryStore) : MetricCache := ⟨store.gauges, store.counters, false⟩

theorem addDelta_holding (store : MemoryStore) (name : String) (delta : Int64) :
    (holding store).addDelta name delta = holding (store.update (.counter name delta)).2 := by
  simp only [addDelta, holding, MemoryStore.update, MemoryStore.totalAfter, Metric.counter]
  cases store.counters.find? name with
  | none => simp
  | some held => rfl

theorem update_holding (store : MemoryStore) (metric : Metric) :
    (holding store).update metric = (.ok (), holding (store.update metric).2) := by
  obtain ⟨name, sample⟩ := metric
  cases sample with
  | gauge level => rfl
  | counter delta => exact congrArg (Prod.mk (Except.ok ())) (addDelta_holding store name delta)

theorem foldl_update_holding (store : MemoryStore) (metrics : List Metric) :
    metrics.foldl (fun cache metric => (cache.update metric).2) (holding store) =
      holding (store.merge metrics) := by
  induction metrics generalizing store with
  | nil => rfl
  | cons metric rest ih =>
    rw [List.foldl_cons, update_holding]
    exact ih (store.update metric).2

end MetricCache

/-! ### All of them -/

namespace MemoryStore

/-- A store `after` is what a store comes to by metrics, in each of the ways to say it. -/
structure Aggregates (store : MemoryStore) (metrics : List Metric) (after : MemoryStore) :
    Prop where
  oneByOne : metrics.foldl (fun store metric => (store.update metric).2) store = after
  cached : metrics.foldl (fun cache metric => (cache.update metric).2)
    (MetricCache.holding store) = MetricCache.holding after
  folded : ∀ kind name,
    (metrics.filter (Metric.concerns kind name)).foldlM Metric.absorb (store.held? kind name) =
      .ok (after.held? kind name)
  levels : ∀ name, after.gauges.find? name =
    (Metric.levels name metrics).getLast?.or (store.gauges.find? name)
  totals : ∀ name, after.counters.find? name =
    if Metric.deltas name metrics = [] then store.counters.find? name
    else some (Int64.ofInt (((store.counters.find? name).getD 0).toInt +
      Metric.sum (Metric.deltas name metrics)))
  present : ∀ kind name, (after.find? kind name).isSome = true ↔
    (store.find? kind name).isSome = true ∨ ∃ metric ∈ metrics, metric.concerns kind name = true
  untouched : ∀ kind name, (∀ metric ∈ metrics, metric.concerns kind name = false) →
    after.find? kind name = store.find? kind name

/-- Metrics that are merged at once come to what they come to in every other way, and two lists
of metrics with the same samples come to the same. -/
theorem updateAll_aggregates (store : MemoryStore) (metrics : List Metric) :
    store.Aggregates metrics (store.updateAll metrics) ∧
      ∀ others, Metric.SameSamples metrics others →
        store.updateAll metrics = store.updateAll others := by
  simp only [updateAll_eq_merge]
  constructor
  · exact {
      oneByOne := rfl
      cached := MetricCache.foldl_update_holding store metrics
      folded := store.foldlM_absorb metrics
      levels := store.find?_merge_gauges metrics
      totals := store.find?_merge_counters metrics
      present := store.isSome_find?_merge metrics
      untouched := fun _kind _name others => store.find?_merge_of_not_concerns others }
  · intro others same
    exact store.merge_eq_of_sameSamples same

/-- A store with a total that the next delta carries over the limit. -/
def fullStore : MemoryStore := ⟨.empty, NameMap.empty.insert "Load" Int64.maxValue⟩

def firstOrder : List Metric :=
  [.counter "Load" 2, .gauge "Load" .zero, .counter "Hits" (-1), .gauge "Load" .one,
    .counter "Load" Int64.maxValue]

def secondOrder : List Metric :=
  [.counter "Load" Int64.maxValue, .counter "Load" 2, .gauge "Load" .one, .counter "Hits" (-1)]

theorem sameSamples_orders : Metric.SameSamples firstOrder secondOrder :=
  .of_names ["Load", "Hits"] (by decide) (by decide) (by decide)

theorem updateAll_orders :
    fullStore.updateAll firstOrder = fullStore.updateAll secondOrder ∧
      (fullStore.updateAll firstOrder).counters.find? "Load" = some 0 := by
  obtain ⟨aggregates, ordered⟩ := updateAll_aggregates fullStore firstOrder
  refine ⟨ordered secondOrder sameSamples_orders, ?_⟩
  rw [aggregates.totals]
  decide

end MemoryStore

end Telemetry
