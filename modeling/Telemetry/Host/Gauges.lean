import Telemetry.Host.Allocation
import Telemetry.Metric.Basic
/-!
The gauges that an agent collects on its host: of the memory of the process, of the memory of the
machine and of the load of its processors.
-/

namespace Telemetry.Host

def runtimeNames : List String :=
  ["Alloc", "BuckHashSys", "Frees", "GCCPUFraction", "GCSys", "HeapAlloc", "HeapIdle", "HeapInuse",
    "HeapObjects", "HeapReleased", "HeapSys", "LastGC", "Lookups", "MCacheInuse", "MCacheSys",
    "MSpanInuse", "MSpanSys", "Mallocs", "NextGC", "NumForcedGC", "NumGC", "OtherSys",
    "PauseTotalNs", "StackInuse", "StackSys", "Sys", "TotalAlloc"]

/-- A gauge without a meaning, drawn at random. -/
def randomName : String := "RandomValue"

/-- A difference that stops at zero. -/
def less (left right : UInt64) : UInt64 := if right ≤ left then left - right else 0

/-- All memory of the process: what is resident, but no less than the heap ever held. -/
def allMemory (counts : AllocationCounts) (resident : UInt64) : UInt64 := max resident counts.peak

/-- The level of a gauge of the process, in whole units. Those that have no meaning are zero. -/
def runtimeLevel (counts : AllocationCounts) (resident : UInt64) (name : String) : UInt64 :=
  match name with
  | "Alloc" | "HeapAlloc" | "HeapInuse" => counts.live
  | "TotalAlloc" => counts.total
  | "Mallocs" => counts.mallocs
  | "Frees" => counts.frees
  | "HeapObjects" => less counts.mallocs counts.frees
  | "HeapSys" => counts.peak
  | "HeapIdle" => less counts.peak counts.live
  | "Sys" => allMemory counts resident
  | "OtherSys" => less (allMemory counts resident) counts.peak
  | _ => 0

def runtimeSamples (counts : AllocationCounts) (resident : UInt64) (drawn : Binary64) :
    List Metric :=
  (runtimeNames.map fun name =>
    Metric.gauge name (.ofInt (runtimeLevel counts resident name).toNat)) ++
    [Metric.gauge randomName drawn]

def processorName (index : Nat) : String := "CPUutilization" ++ Nat.repr (index + 1)

def machineNames (processors : Nat) : List String :=
  ["TotalMemory", "FreeMemory"] ++ (List.range processors).map processorName

end Telemetry.Host
