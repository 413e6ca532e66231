import Mathlib.Data.List.DropRight
import Telemetry.Proofs.Polls
import Telemetry.Proofs.Refinement
import Telemetry.Proofs.Texts
/-!
Restricted caches. A restricted cache refuses an update of a name that is not supported, and of a
poll it leaves out the samples of such names. What either kind of cache does is merge some metrics
(`MetricCache.perform_cases`), so that a restricted cache holds what a cache that takes every name
comes to by the calls without those names, whatever the calls are
(`MetricCache.run_restricts`).
-/

namespace Telemetry

/-! ### Calls -/

/-- A call that changes a cache. -/
inductive CacheCall where
  | updateGauge (name : String) (level : Binary64)
  | updateCounter (name : String) (delta : Int64)
  | update (metric : Metric)
  | applyPoll (samples : List Metric)
  | reset (kind : Kind) (name : String)

namespace CacheCall

/-- The name of an update that is not supported. -/
def refused? : CacheCall → Option String
  | .updateGauge name _ | .updateCounter name _ | .update ⟨name, _⟩ =>
    if MetricCache.isSupported name then none else some name
  | .applyPoll _ | .reset _ _ => none

/-- The call without the samples of names that are not supported; an update is one sample. -/
def supported? (call : CacheCall) : Option CacheCall :=
  match call with
  | .updateGauge name _ | .updateCounter name _ | .update ⟨name, _⟩ =>
    if MetricCache.isSupported name then some call else none
  | .applyPoll samples =>
    some (.applyPoll (samples.filter fun sample => MetricCache.isSupported sample.name))
  | .reset _ _ => some call

/-- The metrics that a call states. -/
def metrics : CacheCall → List Metric
  | .updateGauge name level => [.gauge name level]
  | .updateCounter name delta => [.counter name delta]
  | .update metric => [metric]
  | .applyPoll samples => samples
  | .reset _ _ => []

def isPoll : CacheCall → Bool
  | .applyPoll _ => true
  | _ => false

/-- What a poll is counted by. -/
def tick : CacheCall → List Metric
  | .applyPoll _ => [.counter MetricCache.pollCount 1]
  | _ => []

/-- Whether a call sets the count of the polls to zero. -/
def zeroes : CacheCall → Bool
  | .reset .counter name => name == MetricCache.pollCount
  | _ => false

/-- The calls after the last one that sets the count of the polls to zero. -/
def sinceZero (calls : List CacheCall) : List CacheCall := calls.rtakeWhile fun call => !call.zeroes

/-- The deltas that calls state for the count of the polls. -/
def stated (calls : List CacheCall) : List Int64 :=
  Metric.deltas MetricCache.pollCount (calls.flatMap metrics)

/-- The number of polls and the deltas that are stated for their count, all added up. -/
def count (calls : List CacheCall) : Int := calls.countP isPoll + Metric.sum (stated calls)

theorem count_append (first second : List CacheCall) :
    count (first ++ second) = count first + count second := by
  have deltas : stated (first ++ second) = stated first ++ stated second := by
    rw [stated, List.flatMap_append, Metric.deltas, List.filterMap_append]
    rfl
  rw [count, List.countP_append, deltas, Metric.sum_append, count, count]
  omega

theorem sinceZero_concat (calls : List CacheCall) (call : CacheCall) :
    sinceZero (calls ++ [call]) = if call.zeroes then [] else sinceZero calls ++ [call] := by
  cases zeroed : call.zeroes with
  | true => exact List.rtakeWhile_concat_neg _ _ _ (by rw [zeroed]; decide)
  | false => exact List.rtakeWhile_concat_pos _ _ _ (by rw [zeroed]; rfl)

theorem supported?_cases {call kept : CacheCall} (left : call.supported? = some kept) :
    kept = call ∨ ∃ samples, kept = .applyPoll samples := by
  cases call with
  | updateGauge name level => exact .inl (Option.ite_some_none_eq_some.mp left).2.symm
  | updateCounter name delta => exact .inl (Option.ite_some_none_eq_some.mp left).2.symm
  | update metric => exact .inl (Option.ite_some_none_eq_some.mp left).2.symm
  | applyPoll samples => exact .inr ⟨_, (Option.some.inj left).symm⟩
  | reset kind name => exact .inl (Option.some.inj left).symm

end CacheCall

namespace MetricCache

def perform (cache : MetricCache) : CacheCall → Except MetricError Unit × MetricCache
  | .updateGauge name level => cache.updateGauge name level
  | .updateCounter name delta => cache.updateCounter name delta
  | .update metric => cache.update metric
  | .applyPoll samples => (.ok (), cache.applyPoll samples)
  | .reset kind name => (.ok (), cache.reset kind name)

/-- The cache after calls that come one after another. -/
def run (cache : MetricCache) (calls : List CacheCall) : MetricCache :=
  calls.foldl (fun current call => (current.perform call).2) cache

/-- The maps of a cache. -/
def content (cache : MetricCache) : MemoryStore := ⟨cache.gauges, cache.counters⟩

/-- The cache with the same maps that takes only supported names. -/
def restrict (cache : MetricCache) : MetricCache := { cache with isRestricted := true }

/-- What a call merges: the metrics that the cache takes of those it states, and the count of a
poll. -/
def merged (cache : MetricCache) (call : CacheCall) : List Metric :=
  call.metrics.filter (fun metric => cache.takes metric.name) ++ call.tick

/-- The cache after metrics that are merged one after another, whatever their names are. -/
def mergeAll (cache : MetricCache) (metrics : List Metric) : MetricCache :=
  metrics.foldl merge cache

/-! ### Merging -/

section Merging

variable (cache : MetricCache) (metrics : List Metric)

theorem content_addDelta (name : String) (delta : Int64) :
    (cache.addDelta name delta).content = (cache.content.update (.counter name delta)).2 :=
  congrArg content (addDelta_holding cache.content name delta)

theorem content_merge (metric : Metric) :
    (cache.merge metric).content = (cache.content.update metric).2 := by
  obtain ⟨name, sample⟩ := metric
  cases sample with
  | gauge level => rfl
  | counter delta => exact cache.content_addDelta name delta

theorem content_mergeAll : (cache.mergeAll metrics).content = cache.content.merge metrics := by
  induction metrics generalizing cache with
  | nil => rfl
  | cons metric rest ih =>
    change ((cache.merge metric).mergeAll rest).content = _
    rw [ih, content_merge]
    rfl

theorem isRestricted_merge (metric : Metric) :
    (cache.merge metric).isRestricted = cache.isRestricted := by
  obtain ⟨name, sample⟩ := metric
  cases sample <;> rfl

theorem isRestricted_mergeAll :
    (cache.mergeAll metrics).isRestricted = cache.isRestricted := by
  induction metrics generalizing cache with
  | nil => rfl
  | cons metric rest ih => exact (ih (cache.merge metric)).trans (cache.isRestricted_merge metric)

theorem takes_merge (metric : Metric) (name : String) :
    (cache.merge metric).takes name = cache.takes name := by
  rw [takes, isRestricted_merge, takes]

theorem merge_restrict (metric : Metric) :
    cache.restrict.merge metric = (cache.merge metric).restrict := by
  obtain ⟨name, sample⟩ := metric
  cases sample <;> rfl

theorem mergeAll_restrict :
    cache.restrict.mergeAll metrics = (cache.mergeAll metrics).restrict := by
  induction metrics generalizing cache with
  | nil => rfl
  | cons metric rest ih =>
    change (cache.restrict.merge metric).mergeAll rest = _
    rw [merge_restrict, ih]
    rfl

/-- A poll merges the samples that the cache takes, and then its count. -/
theorem applyPoll_eq :
    cache.applyPoll metrics = cache.mergeAll (cache.merged (.applyPoll metrics)) := by
  have samples : metrics.foldl (fun current metric =>
      if current.takes metric.name then current.merge metric else current) cache =
      cache.mergeAll (metrics.filter fun metric => cache.takes metric.name) := by
    induction metrics generalizing cache with
    | nil => rfl
    | cons metric rest ih =>
      rw [List.foldl_cons]
      by_cases taken : cache.takes metric.name = true
      · simp only [if_pos taken, ih, List.filter_cons, takes_merge]
        rfl
      · simp only [if_neg taken, ih, List.filter_cons]
  rw [applyPoll, samples, merged, mergeAll, mergeAll, List.foldl_append]
  rfl

end Merging

/-! ### One call -/

section Performing

variable (cache : MetricCache)

/-- Whatever its kind, an update merges its metric unless the name is refused. -/
theorem update_eq_guarded (metric : Metric) :
    cache.update metric = cache.guarded metric.name (cache.merge metric) := by
  obtain ⟨name, sample⟩ := metric
  cases sample <;> rfl

theorem update_eq_mergeAll (metric : Metric) :
    (cache.update metric).2 = cache.mergeAll (cache.merged (.update metric)) := by
  rw [update_eq_guarded, guarded]
  by_cases taken : cache.takes metric.name = true
  · simp only [merged, CacheCall.metrics, if_pos taken, List.filter_cons]
    rfl
  · simp only [merged, CacheCall.metrics, if_neg taken, List.filter_cons]
    rfl

/-- A call merges its metrics, or it is a reset. -/
theorem perform_cases (call : CacheCall) :
    ((∀ kind name, call ≠ .reset kind name) ∧
        (cache.perform call).2 = cache.mergeAll (cache.merged call)) ∨
      ∃ kind name, call = .reset kind name := by
  cases call with
  | updateGauge name level => exact .inl ⟨nofun, cache.update_eq_mergeAll (.gauge name level)⟩
  | updateCounter name delta => exact .inl ⟨nofun, cache.update_eq_mergeAll (.counter name delta)⟩
  | update metric => exact .inl ⟨nofun, cache.update_eq_mergeAll metric⟩
  | applyPoll samples => exact .inl ⟨nofun, cache.applyPoll_eq samples⟩
  | reset kind name => exact .inr ⟨kind, name, rfl⟩

theorem reset_restrict (kind : Kind) (name : String) :
    cache.restrict.reset kind name = (cache.reset kind name).restrict := by
  cases kind with
  | gauge =>
    exact (apply_ite restrict ((cache.gauges.find? name).isSome = true)
      (cache.setLevel name .zero) cache).symm
  | counter =>
    exact (apply_ite restrict ((cache.counters.find? name).isSome = true)
      { cache with counters := cache.counters.insert name 0 } cache).symm

/-- A reset neither adds nor removes anything. -/
theorem isSome_find?_reset (kind other : Kind) (name looked : String) :
    ((cache.reset kind name).content.find? other looked).isSome =
      (cache.content.find? other looked).isSome := by
  have kept : ∀ {α : Type} (map : NameMap α) (zero : α), (map.find? name).isSome = true →
      ((map.insert name zero).find? looked).isSome = (map.find? looked).isSome := by
    intro α map zero present
    rw [NameMap.find?_insert]
    by_cases same : looked = name
    · rw [if_pos same, same, present]
      rfl
    · rw [if_neg same]
  cases kind with
  | gauge =>
    by_cases present : (cache.gauges.find? name).isSome = true
    · rw [reset, if_pos present]
      cases other with
      | gauge =>
        simp only [content, MemoryStore.find?, setLevel, Option.isSome_map]
        exact kept cache.gauges .zero present
      | counter => rfl
    · rw [reset, if_neg present]
  | counter =>
    by_cases present : (cache.counters.find? name).isSome = true
    · rw [reset, if_pos present]
      cases other with
      | gauge => rfl
      | counter =>
        simp only [content, MemoryStore.find?, Option.isSome_map]
        exact kept cache.counters 0 present
    · rw [reset, if_neg present]

/-- Any other reset leaves the count of the polls alone. -/
theorem held_reset_of_not_zeroes {kind : Kind} {name : String}
    (apart : (CacheCall.reset kind name).zeroes = false) :
    (cache.reset kind name).held = cache.held := by
  cases kind with
  | gauge =>
    rw [reset]
    split <;> rfl
  | counter =>
    have differs : pollCount ≠ name := (beq_eq_false_iff_ne.mp apart).symm
    rw [reset]
    split
    · rw [held, NameMap.find?_insert, if_neg differs, held]
    · rfl

/-- A restricted cache merges of a call what is left of it without unsupported names. -/
theorem merged_restrict (all : cache.isRestricted = false) (call : CacheCall) :
    cache.restrict.merged call = (call.supported?.map cache.merged).getD [] := by
  have takesAll : ∀ name, cache.takes name = true := by
    intro name
    rw [takes, all]
    rfl
  have takesKnown : ∀ name, cache.restrict.takes name = isSupported name := fun _name => rfl
  have update : ∀ (call : CacheCall) (metric : Metric), call.metrics = [metric] → call.tick = [] →
      cache.restrict.merged call =
        ((if isSupported metric.name then some call else none).map cache.merged).getD [] := by
    intro call metric one silent
    by_cases known : isSupported metric.name = true
    · rw [if_pos known, Option.map_some, Option.getD_some]
      simp only [merged, one, silent, List.filter_cons, takesKnown, takesAll, known]
      rfl
    · simp only [merged, one, silent, List.filter_cons, takesKnown, if_neg known]
      rfl
  cases call with
  | updateGauge name level => exact update _ (.gauge name level) rfl rfl
  | updateCounter name delta => exact update _ (.counter name delta) rfl rfl
  | update metric => exact update _ metric rfl rfl
  | applyPoll samples =>
    simp only [merged, CacheCall.metrics, CacheCall.supported?, Option.map_some, Option.getD_some,
      takesAll, takesKnown, List.filter_true]
    rfl
  | reset kind name => rfl

/-- A restricted cache does what a cache that takes every name does without unsupported names. -/
theorem perform_restrict (all : cache.isRestricted = false) (call : CacheCall) :
    (cache.restrict.perform call).2 = (cache.run call.supported?.toList).restrict := by
  rcases cache.restrict.perform_cases call with ⟨merges, done⟩ | ⟨kind, name, rfl⟩
  · rw [done, mergeAll_restrict, cache.merged_restrict all]
    cases left : call.supported? with
    | none => rfl
    | some kept =>
      rcases cache.perform_cases kept with ⟨_also, same⟩ | ⟨kind, name, rfl⟩
      · exact congrArg restrict same.symm
      · rcases CacheCall.supported?_cases left with same | ⟨samples, other⟩
        · exact absurd same.symm (merges kind name)
        · cases other
  · exact cache.reset_restrict kind name

theorem isRestricted_perform (call : CacheCall) :
    (cache.perform call).2.isRestricted = cache.isRestricted := by
  rcases cache.perform_cases call with ⟨_merges, done⟩ | ⟨kind, name, rfl⟩
  · rw [done, isRestricted_mergeAll]
  · cases kind with
    | gauge =>
      simp only [perform, reset]
      split <;> rfl
    | counter =>
      simp only [perform, reset]
      split <;> rfl

theorem held_mergeAll (metrics : List Metric) :
    (cache.mergeAll metrics).held =
      cache.held + Int64.ofInt (Metric.sum (Metric.deltas pollCount metrics)) := by
  have total := cache.content.find?_merge_counters metrics pollCount
  rw [← content_mergeAll] at total
  rw [held, show (cache.mergeAll metrics).counters.find? pollCount = _ from total]
  by_cases nothing : Metric.deltas pollCount metrics = []
  · rw [if_pos nothing, nothing]
    exact (Int64.add_zero _).symm
  · rw [if_neg nothing, Option.getD_some, Int64.ofInt_add, Int64.ofInt_toInt]
    rfl

/-- Every cache takes the count of the polls, so that all deltas stated for it are merged. -/
theorem deltas_merged (call : CacheCall) :
    Metric.deltas pollCount (cache.merged call) =
      CacheCall.stated [call] ++ if call.isPoll then [1] else [] := by
  have taken : Metric.deltas pollCount
      (call.metrics.filter fun metric => cache.takes metric.name) =
        Metric.deltas pollCount call.metrics := by
    rw [Metric.deltas, List.filterMap_filter]
    refine List.filterMap_congr fun metric _member => ?_
    by_cases named : metric.name = pollCount
    · have takes : cache.takes metric.name = true := by
        rw [takes, named]
        exact Bool.or_true _
      rw [if_pos takes]
    · have absent : metric.delta? pollCount = none := by
        unfold Metric.delta?
        cases metric.sample with
        | gauge level => rfl
        | counter delta => exact if_neg named
      rw [absent, ite_self]
  have ticked : Metric.deltas pollCount call.tick = if call.isPoll then [1] else [] := by
    cases call <;> rfl
  rw [merged, Metric.deltas, List.filterMap_append, CacheCall.stated, List.flatMap_singleton]
  exact congrArg₂ (· ++ ·) taken ticked

/-- A call counts if it is a poll or states a delta for the count. -/
theorem concerns_merged_iff (call : CacheCall) :
    (∃ metric ∈ cache.merged call, metric.concerns .counter pollCount = true) ↔
      call.isPoll = true ∨ CacheCall.stated [call] ≠ [] := by
  rw [Metric.exists_concerns_iff, deltas_merged, ne_eq, List.append_eq_nil_iff, not_and_or, or_comm]
  cases call.isPoll <;> simp

theorem sum_deltas_merged (call : CacheCall) :
    Metric.sum (Metric.deltas pollCount (cache.merged call)) = CacheCall.count [call] := by
  rw [deltas_merged, Metric.sum_append, CacheCall.count, Int.add_comm, List.countP_singleton]
  cases call.isPoll <;> rfl

theorem held_perform (call : CacheCall) :
    (cache.perform call).2.held =
      if call.zeroes then 0 else cache.held + Int64.ofInt (CacheCall.count [call]) := by
  rcases cache.perform_cases call with ⟨merges, done⟩ | ⟨kind, name, rfl⟩
  · have kept : call.zeroes = false := by
      cases call with
      | reset kind name => exact absurd rfl (merges kind name)
      | _ => rfl
    rw [done, held_mergeAll, sum_deltas_merged, kept]
    rfl
  · cases zeroed : (CacheCall.reset kind name).zeroes with
    | true =>
      cases kind with
      | gauge => cases zeroed
      | counter =>
        obtain rfl : name = pollCount := beq_iff_eq.mp zeroed
        exact cache.held_reset
    | false => exact (cache.held_reset_of_not_zeroes zeroed).trans (Int64.add_zero _).symm

end Performing

/-! ### Many calls -/

section Running

variable (cache : MetricCache) (calls : List CacheCall)

theorem run_append (later : List CacheCall) :
    cache.run (calls ++ later) = (cache.run calls).run later :=
  List.foldl_append

theorem isRestricted_run : (cache.run calls).isRestricted = cache.isRestricted := by
  induction calls generalizing cache with
  | nil => rfl
  | cons call rest ih => exact (ih (cache.perform call).2).trans (cache.isRestricted_perform call)

/-- Restricting a cache is the same as taking the unsupported names out of the calls. -/
theorem run_restrict (all : cache.isRestricted = false) :
    cache.restrict.run calls = (cache.run (calls.filterMap CacheCall.supported?)).restrict := by
  induction calls generalizing cache with
  | nil => rfl
  | cons call rest ih =>
    have split : (call :: rest).filterMap CacheCall.supported? =
        call.supported?.toList ++ rest.filterMap CacheCall.supported? := by
      rw [List.filterMap_cons]
      cases call.supported? <;> rfl
    have still : (cache.run call.supported?.toList).isRestricted = false :=
      (cache.isRestricted_run _).trans all
    calc cache.restrict.run (call :: rest)
      _ = (cache.restrict.perform call).2.run rest := rfl
      _ = (cache.run call.supported?.toList).restrict.run rest := by
        rw [cache.perform_restrict all]
      _ = (cache.run ((call :: rest).filterMap CacheCall.supported?)).restrict := by
        rw [ih _ still, split, run_append]

/-- What is held of a name was held before or has been merged. -/
theorem isSome_find?_run (kind : Kind) (name : String) :
    ((cache.run calls).content.find? kind name).isSome = true ↔
      (cache.content.find? kind name).isSome = true ∨
        ∃ call ∈ calls, ∃ metric ∈ cache.merged call, metric.concerns kind name = true := by
  induction calls generalizing cache with
  | nil =>
    constructor
    · exact .inl
    · rintro (held | ⟨call, absent, _merged⟩)
      · exact held
      · cases absent
  | cons call rest ih =>
    have same : ∀ other, (cache.perform call).2.merged other = cache.merged other := by
      intro other
      simp only [merged, takes, isRestricted_perform]
    have first : ((cache.perform call).2.content.find? kind name).isSome = true ↔
        (cache.content.find? kind name).isSome = true ∨
          ∃ metric ∈ cache.merged call, metric.concerns kind name = true := by
      rcases cache.perform_cases call with ⟨_merges, done⟩ | ⟨other, zeroed, rfl⟩
      · rw [done, content_mergeAll]
        exact MemoryStore.isSome_find?_merge ..
      · have kept := cache.isSome_find?_reset other kind zeroed name
        simp only [perform, kept]
        constructor
        · exact .inl
        · rintro (held | ⟨metric, absent, _concerned⟩)
          · exact held
          · cases absent
    refine (ih (cache.perform call).2).trans ?_
    rw [first, or_assoc]
    apply or_congr_right
    simp only [same, List.mem_cons, exists_eq_or_imp]

/-- The count of the polls is what has been counted since it was last set to zero. -/
theorem held_run (fresh : cache.held = 0) :
    (cache.run calls).held = Int64.ofInt (CacheCall.count (CacheCall.sinceZero calls)) := by
  induction calls using List.reverseRecOn with
  | nil => exact fresh
  | append_singleton calls call ih =>
    have last : cache.run (calls ++ [call]) = ((cache.run calls).perform call).2 :=
      cache.run_append calls [call]
    rw [last, held_perform, CacheCall.sinceZero_concat]
    cases call.zeroes with
    | true => rfl
    | false =>
      rw [ih]
      simp only [Bool.false_eq_true, if_false]
      rw [CacheCall.count_append, Int64.ofInt_add]

end Running

end MetricCache

/-! ### Snapshots -/

/-- Gauges stand before counters, and metrics of one kind in the order of the octets of their
names. -/
inductive Metric.Precedes (earlier later : Metric) : Prop
  | kinds (gauge : earlier.kind = .gauge) (counter : later.kind = .counter)
  | names (same : earlier.kind = later.kind)
      (below : Bytes.ofText earlier.name < Bytes.ofText later.name)

theorem MemoryStore.list_precedes (store : MemoryStore) : store.list.Pairwise Metric.Precedes := by
  refine List.pairwise_append.mpr ⟨?_, ?_, ?_⟩
  · refine List.pairwise_map.mpr (store.gauges.ordered.imp fun below => ?_)
    exact .names rfl (Bytes.ofText_lt_iff.mpr below)
  · refine List.pairwise_map.mpr (store.counters.ordered.imp fun below => ?_)
    exact .names rfl (Bytes.ofText_lt_iff.mpr below)
  · intro level inLevels total inTotals
    obtain ⟨_entry, _inside, rfl⟩ := List.mem_map.mp inLevels
    obtain ⟨_other, _member, rfl⟩ := List.mem_map.mp inTotals
    exact .kinds rfl rfl

namespace MetricCache

/-- A restricted cache after some calls: what it holds, what it goes on to refuse, what it has
counted and how it is listed. -/
structure Restricts (calls : List CacheCall) (cache : MetricCache) : Prop where
  filtered : cache = ((new false).run (calls.filterMap CacheCall.supported?)).restrict
  supported : ∀ kind name, (cache.content.find? kind name).isSome = true → isSupported name = true
  refuses : ∀ call name, call.refused? = some name →
    cache.perform call = (.error (.invalidName name), cache)
  answers : ∀ call, call.refused? = none → (cache.perform call).1 = .ok ()
  present : (cache.counters.find? pollCount).isSome = true ↔
    ∃ call ∈ calls, call.isPoll = true ∨ CacheCall.stated [call] ≠ []
  counted : ∀ total, cache.counters.find? pollCount = some total →
    total = Int64.ofInt (CacheCall.count (CacheCall.sinceZero calls))
  listed : ∀ metric, metric ∈ cache.snapshot ↔
    cache.content.find? metric.kind metric.name = some metric.sample
  ordered : cache.snapshot.Pairwise Metric.Precedes
  /-- It does not matter in which order the maps are enumerated before they are sorted. -/
  enumerated : ∀ gauges counters : List Metric, gauges.Perm cache.gaugeMetrics →
    counters.Perm cache.counterMetrics →
    Metric.sortByName gauges ++ Metric.sortByName counters = cache.snapshot

section Restricted

variable {cache : MetricCache} (restricted : cache.isRestricted = true)

include restricted

theorem takes_restricted (name : String) : cache.takes name = isSupported name := by
  rw [takes, restricted]
  rfl

/-- An update under a name that is not supported is refused and changes nothing. -/
theorem perform_refused {call : CacheCall} {name : String} (refused : call.refused? = some name) :
    cache.perform call = (.error (.invalidName name), cache) := by
  have turned : ∀ (stated : String) (changed : MetricCache),
      (if isSupported stated then none else some stated) = some name →
        cache.guarded stated changed = (.error (.invalidName name), cache) := by
    intro stated changed unsupported
    obtain ⟨unknown, same⟩ := Option.ite_none_left_eq_some.mp unsupported
    cases same
    rw [guarded, takes_restricted restricted, if_neg unknown]
  cases call with
  | updateGauge stated level => exact turned stated _ refused
  | updateCounter stated delta => exact turned stated _ refused
  | update metric =>
    exact (cache.update_eq_guarded metric).trans (turned metric.name (cache.merge metric) refused)
  | applyPoll samples => cases refused
  | reset kind stated => cases refused

theorem perform_answered {call : CacheCall} (taken : call.refused? = none) :
    (cache.perform call).1 = .ok () := by
  have passed : ∀ (stated : String) (changed : MetricCache),
      (if isSupported stated then none else some stated) = none →
        (cache.guarded stated changed).1 = .ok () := by
    intro stated changed supported
    have known : isSupported stated = true := by
      by_contra unknown
      rw [if_neg unknown] at supported
      cases supported
    rw [guarded, takes_restricted restricted, if_pos known]
  cases call with
  | updateGauge stated level => exact passed stated _ taken
  | updateCounter stated delta => exact passed stated _ taken
  | update metric =>
    rw [perform, update_eq_guarded]
    exact passed metric.name (cache.merge metric) taken
  | applyPoll samples => rfl
  | reset kind stated => rfl

/-- Whatever a restricted cache merges has a supported name. -/
theorem isSupported_of_merged {call : CacheCall} {metric : Metric}
    (member : metric ∈ cache.merged call) : isSupported metric.name = true := by
  rcases List.mem_append.mp member with stated | ticked
  · rw [← takes_restricted restricted]
    exact (List.mem_filter.mp stated).2
  · cases call with
    | applyPoll samples =>
      rw [List.mem_singleton.mp ticked]
      rfl
    | _ => cases ticked

end Restricted

/-- However the maps are enumerated, sorting gives the snapshot. -/
theorem snapshot_of_perm (cache : MetricCache) {gauges counters : List Metric}
    (levels : gauges.Perm cache.gaugeMetrics) (totals : counters.Perm cache.counterMetrics) :
    Metric.sortByName gauges ++ Metric.sortByName counters = cache.snapshot := by
  rw [snapshot_eq, cache.sortByName_gaugeMetrics levels, cache.sortByName_counterMetrics totals]

theorem snapshot_eq_list (cache : MetricCache) : cache.snapshot = cache.content.list :=
  cache.snapshot_eq

theorem mem_snapshot_iff (cache : MetricCache) (metric : Metric) :
    metric ∈ cache.snapshot ↔
      cache.content.find? metric.kind metric.name = some metric.sample := by
  rw [snapshot_eq_list]
  refine (cache.content.mem_list_iff metric).trans ?_
  rw [MemoryStore.get_eq_ok_iff, and_iff_right rfl, and_iff_right rfl]

/-- A restricted cache holds and counts what a cache that takes every name does without the names
that are not supported. It holds no other name, and refuses each with an error. -/
theorem run_restricts (calls : List CacheCall) : Restricts calls ((new true).run calls) := by
  have restricted : ((new true).run calls).isRestricted = true := (new true).isRestricted_run calls
  have nothing : ∀ kind name, ¬ ((new true).content.find? kind name).isSome = true := by
    intro kind name
    cases kind <;> exact Bool.false_ne_true
  have held := fun kind name =>
    ((new true).isSome_find?_run calls kind name).trans (or_iff_right (nothing kind name))
  exact {
    filtered := (new false).run_restrict calls rfl
    supported := by
      intro kind name present
      obtain ⟨call, _member, metric, merged, concerned⟩ := (held kind name).mp present
      obtain ⟨_kind, rfl⟩ := Metric.concerns_eq_true.mp concerned
      exact isSupported_of_merged rfl merged
    refuses := fun _call _name => perform_refused restricted
    answers := fun _call => perform_answered restricted
    present := by
      have counted := held .counter pollCount
      rw [MemoryStore.find?, Option.isSome_map] at counted
      exact counted.trans (exists_congr fun call =>
        and_congr_right fun _member => (new true).concerns_merged_iff call)
    counted := by
      intro total found
      have sum := (new true).held_run calls rfl
      rwa [MetricCache.held, found] at sum
    listed := mem_snapshot_iff _
    ordered := by
      rw [snapshot_eq_list]
      exact MemoryStore.list_precedes _
    enumerated := fun _gauges _counters => snapshot_of_perm _ }

end MetricCache

end Telemetry
