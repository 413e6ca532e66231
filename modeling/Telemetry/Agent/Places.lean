import Telemetry.Agent.Reporter
/-!
The places in the queue of a reporter, counted one by one. A tick holds a place back before it takes
a batch from the cache. The batch fills the place; without a batch the place is given back. It is
free again when a worker takes the batch.

A reporter reads off its queue whether there is room. Whoever counts the places does as the reporter
does and never loses one.
-/

namespace Telemetry

structure CountedReporter where
  reporter : Reporter
  /-- The places that are neither filled nor held back. -/
  free : Nat

namespace CountedReporter

def start (plan : ReporterPlan) (cache : MetricCache) : CountedReporter :=
  ⟨.start cache, plan.workers⟩

/-- Holds a place back, if one is free. -/
def reserve? (counted : CountedReporter) : Option CountedReporter :=
  if counted.free = 0 then none else some { counted with free := counted.free - 1 }

def giveBack (counted : CountedReporter) : CountedReporter :=
  { counted with free := counted.free + 1 }

/-- Fills the place that is held back. -/
def fill (counted : CountedReporter) (batch : Batch) : CountedReporter :=
  let reporter := counted.reporter
  { counted with
    reporter := { reporter with
      queue := reporter.queue ++ [⟨reporter.taken, batch⟩]
      taken := reporter.taken + 1 } }

def tick (counted : CountedReporter) : CountedReporter :=
  match counted.reserve? with
  | none => counted
  | some holding =>
    let (batch, cache) := holding.reporter.cache.takeBatch
    let emptied := { holding with reporter := { holding.reporter with cache } }
    if batch.isEmpty then emptied.giveBack else emptied.fill batch

def step (plan : ReporterPlan) (counted : CountedReporter) :
    Reporter.Step → Option CountedReporter
  | .tick => if counted.reporter.isOpen then some counted.tick else none
  | .take => (counted.reporter.step plan .take).map fun next => ⟨next, counted.free + 1⟩
  | other => (counted.reporter.step plan other).map fun next => ⟨next, counted.free⟩

def run (plan : ReporterPlan) (counted : CountedReporter) (steps : List Reporter.Step) :
    Option CountedReporter :=
  steps.foldlM (step plan) counted

end CountedReporter

end Telemetry
