import Telemetry.Agent.Cache
/-!
The sampler of an agent: every collector is asked at once and then at regular instants, and what it
gives is merged into the cache as one poll. A collector that fails is passed over.
-/

namespace Telemetry

/-- The passes of a collector, one after another; a pass that failed has no samples. Afterwards a
collector has nothing to give. -/
abbrev Collector := List (Option (List Metric))

namespace Sampler

def pollOne (cache : MetricCache) (collector : Collector) : MetricCache × Collector :=
  match collector with
  | [] => (cache.applyPoll [], [])
  | some samples :: rest => (cache.applyPoll samples, rest)
  | none :: rest => (cache, rest)

def poll (cache : MetricCache) : List Collector → MetricCache × List Collector
  | [] => (cache, [])
  | collector :: others =>
    let (next, rest) := pollOne cache collector
    let (last, remaining) := poll next others
    (last, rest :: remaining)

/-- The state of a run: the cache and what the collectors still have to give. -/
structure Run where
  cache : MetricCache
  collectors : List Collector

def Run.poll (run : Run) : Run :=
  let (cache, collectors) := Sampler.poll run.cache run.collectors
  ⟨cache, collectors⟩

/-- How many polls there are before an instant, of which the first is at zero. -/
def pollsBefore (period instant : Nat) : Nat := (instant + period - 1) / period

def look (period : Nat) : (done : Nat) → List Nat → Run → List MetricCache
  | _, [], _ => []
  | done, instant :: later, run =>
    let due := pollsBefore period instant
    let current := (due - done).repeat Run.poll run
    current.cache :: look period (max due done) later current

end Sampler

end Telemetry
