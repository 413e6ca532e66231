import Telemetry.Host.Gauges
import Telemetry.Store.NameMap
/-!
The cache of an agent: the last samples between two reports. A restricted cache takes only names
that it knows. Every poll is counted by a counter of its own.

A batch is sorted when it is taken, since a map may enumerate its entries in any order
(`Metric.sortByName_of_perm`).
-/

namespace Telemetry

namespace Metric

def sortByName (metrics : List Metric) : List Metric :=
  metrics.mergeSort fun first second => first.name ≤ second.name

/-- Sorting gives the one list in which the names ascend, however the metrics were enumerated. -/
theorem sortByName_of_perm {metrics others : List Metric} (same : others.Perm metrics)
    (ascending : metrics.Pairwise fun first second => first.name < second.name) :
    sortByName others = metrics := by
  have sorted : (sortByName others).Perm metrics := (List.mergeSort_perm ..).trans same
  have distinct : (sortByName others).Pairwise fun first second => first.name ≠ second.name := by
    refine (sorted.pairwise_iff Ne.symm).mpr (ascending.imp ?_)
    intro first second below equal
    exact String.lt_irrefl first.name (equal ▸ below)
  have ordered : (sortByName others).Pairwise fun first second => first.name ≤ second.name := by
    refine (List.pairwise_mergeSort ?_ ?_ others).imp of_decide_eq_true
    · intro first second third earlier later
      exact decide_eq_true (String.le_trans (of_decide_eq_true earlier) (of_decide_eq_true later))
    · intro first second
      simpa using String.le_total first.name second.name
  refine sorted.eq_of_pairwise ?_
    (ordered.imp₂ (fun _first _second => Std.lt_of_le_of_ne) distinct) ascending
  intro first second _inSorted _inMetrics below above
  exact absurd above (String.lt_asymm below)

end Metric

structure MetricCache where
  gauges : NameMap Binary64
  counters : NameMap Int64
  isRestricted : Bool

namespace MetricCache

def pollCount : String := "PollCount"

def new (isRestricted : Bool) : MetricCache := ⟨.empty, .empty, isRestricted⟩

def isSupported (name : String) : Bool :=
  name == pollCount || name == Host.randomName || Host.runtimeNames.contains name

def takes (cache : MetricCache) (name : String) : Bool := !cache.isRestricted || isSupported name

def setLevel (cache : MetricCache) (name : String) (level : Binary64) : MetricCache :=
  { cache with gauges := cache.gauges.insert name level }

def addDelta (cache : MetricCache) (name : String) (delta : Int64) : MetricCache :=
  let total := match cache.counters.find? name with
    | some held => held + delta
    | none => delta
  { cache with counters := cache.counters.insert name total }

/-- Merges a sample whatever its name is. -/
def merge (cache : MetricCache) (metric : Metric) : MetricCache :=
  match metric.sample with
  | .gauge level => cache.setLevel metric.name level
  | .counter delta => cache.addDelta metric.name delta

/-- Changes the cache under a name that it takes, and otherwise refuses the name. -/
def guarded (cache : MetricCache) (name : String) (changed : MetricCache) :
    Except MetricError Unit × MetricCache :=
  if cache.takes name then (.ok (), changed) else (.error (.invalidName name), cache)

def updateGauge (cache : MetricCache) (name : String) (level : Binary64) :
    Except MetricError Unit × MetricCache :=
  cache.guarded name (cache.setLevel name level)

def updateCounter (cache : MetricCache) (name : String) (delta : Int64) :
    Except MetricError Unit × MetricCache :=
  cache.guarded name (cache.addDelta name delta)

def update (cache : MetricCache) (metric : Metric) : Except MetricError Unit × MetricCache :=
  match metric.sample with
  | .gauge level => cache.updateGauge metric.name level
  | .counter delta => cache.updateCounter metric.name delta

/-- Sets what is held under a name to zero; a name that is not there stays away. -/
def reset (cache : MetricCache) (kind : Kind) (name : String) : MetricCache :=
  match kind with
  | .gauge =>
    if (cache.gauges.find? name).isSome then cache.setLevel name .zero else cache
  | .counter =>
    if (cache.counters.find? name).isSome then
      { cache with counters := cache.counters.insert name 0 }
    else cache

/-- Merges the samples of a poll, without those that the cache does not take, and counts it. -/
def applyPoll (cache : MetricCache) (samples : List Metric) : MetricCache :=
  (samples.foldl
    (fun current metric => if current.takes metric.name then current.merge metric else current)
    cache).addDelta pollCount 1

/-- The levels as the map enumerates them. -/
def gaugeMetrics (cache : MetricCache) : List Metric :=
  cache.gauges.entries.map fun (name, level) => Metric.gauge name level

/-- The totals as the map enumerates them. -/
def counterMetrics (cache : MetricCache) : List Metric :=
  cache.counters.entries.map fun (name, total) => Metric.counter name total

def levels (cache : MetricCache) : List Metric := Metric.sortByName cache.gaugeMetrics

def totals (cache : MetricCache) : List Metric := Metric.sortByName cache.counterMetrics

def snapshot (cache : MetricCache) : List Metric := cache.levels ++ cache.totals

theorem sortByName_gaugeMetrics (cache : MetricCache) {gauges : List Metric}
    (same : gauges.Perm cache.gaugeMetrics) : Metric.sortByName gauges = cache.gaugeMetrics :=
  Metric.sortByName_of_perm same (List.pairwise_map.mpr cache.gauges.ordered)

theorem sortByName_counterMetrics (cache : MetricCache) {counters : List Metric}
    (same : counters.Perm cache.counterMetrics) :
    Metric.sortByName counters = cache.counterMetrics :=
  Metric.sortByName_of_perm same (List.pairwise_map.mpr cache.counters.ordered)

theorem levels_eq (cache : MetricCache) : cache.levels = cache.gaugeMetrics :=
  cache.sortByName_gaugeMetrics (.refl _)

theorem totals_eq (cache : MetricCache) : cache.totals = cache.counterMetrics :=
  cache.sortByName_counterMetrics (.refl _)

theorem snapshot_eq (cache : MetricCache) :
    cache.snapshot = cache.gaugeMetrics ++ cache.counterMetrics := by
  rw [snapshot, levels_eq, totals_eq]

def takeBatch (cache : MetricCache) : List Metric × MetricCache :=
  (cache.snapshot, cache.reset .counter pollCount)

end MetricCache

end Telemetry
