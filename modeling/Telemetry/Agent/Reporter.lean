import Telemetry.Agent.Cache
import Telemetry.Agent.Delivery
/-!
The reporter of an agent: at regular ticks the cache is put into a queue as a batch, and a fixed
number of workers takes batches from the queue and sends them. A worker keeps its batch while it
waits to send it again. After a cancellation nothing more is queued; a worker that asks the queue
for a batch when none is left leaves, and the reporter waits until all have left.

A reporter is a state and the steps that may happen to it, in any order: `Reporter.step` says which
steps are possible and what they do. When they happen is said elsewhere.
-/

namespace Telemetry

/-- A batch with its place among all that were taken from the cache. -/
structure Ticket where
  number : Nat
  batch : Batch

inductive JobStage where
  | sending
  | waiting
deriving DecidableEq, Repr

structure Job where
  ticket : Ticket
  stage : JobStage
  /-- How the attempts so far have failed, the last one first. -/
  failures : List DeliveryError

/-- A batch that no worker has to do anything for. -/
structure Settlement where
  ticket : Ticket
  result : Except DeliveryError Unit
  /-- How the attempts before it have failed, the last one first. -/
  failures : List DeliveryError

structure ReporterPlan where
  /-- How many batches may be under way at once, and how many may be queued. -/
  rateLimit : Nat
  backoff : Backoff

/-- The number of workers and of places in the queue. There is always one. -/
def ReporterPlan.workers (plan : ReporterPlan) : Nat := max plan.rateLimit 1

structure Reporter where
  cache : MetricCache
  /-- The batches that no worker has, the oldest first. -/
  queue : List Ticket
  /-- What the workers do; those without a job are idle or have left. -/
  jobs : List Job
  settlements : List Settlement
  taken : Nat
  isOpen : Bool
  /-- How many workers have left. -/
  departed : Nat
  /-- How many of them the reporter has waited for. -/
  joined : Nat

namespace Reporter

inductive Step where
  | change (update : MetricCache → MetricCache)
  | tick
  /-- An idle worker takes the oldest batch of the queue and sends it. -/
  | take
  | finish (number : Nat) (result : Except DeliveryError Unit)
  | resume (number : Nat)
  /-- The wait before another attempt is cut short by the cancellation. -/
  | giveUp (number : Nat)
  | cancel
  /-- An idle worker finds the queue closed and empty, and leaves. -/
  | depart
  | join

def start (cache : MetricCache) : Reporter :=
  { cache, queue := [], jobs := [], settlements := [], taken := 0, isOpen := true, departed := 0,
    joined := 0 }

def hasIdle (plan : ReporterPlan) (reporter : Reporter) : Bool :=
  reporter.jobs.length + reporter.departed < plan.workers

/-- Takes a batch from the cache and queues it; an empty one is dropped. -/
def enqueue (reporter : Reporter) : Reporter :=
  let (batch, cache) := reporter.cache.takeBatch
  if batch.isEmpty then { reporter with cache }
  else
    { reporter with
      cache
      queue := reporter.queue ++ [⟨reporter.taken, batch⟩]
      taken := reporter.taken + 1 }

def findJob? (reporter : Reporter) (number : Nat) (stage : JobStage) : Option Job :=
  reporter.jobs.find? fun job => job.ticket.number == number && job.stage == stage

def replace (reporter : Reporter) (next : Job) : Reporter :=
  { reporter with
    jobs := reporter.jobs.map fun job =>
      if job.ticket.number = next.ticket.number then next else job }

def settle (reporter : Reporter) (job : Job) (result : Except DeliveryError Unit)
    (failures : List DeliveryError) : Reporter :=
  { reporter with
    jobs := reporter.jobs.filter fun other => other.ticket.number != job.ticket.number
    settlements := ⟨job.ticket, result, failures⟩ :: reporter.settlements }

def delayAfter? (plan : ReporterPlan) (job : Job) (error : DeliveryError) : Option Nat :=
  if error.isTransient then plan.backoff.delays[job.failures.length]? else none

def step (plan : ReporterPlan) (reporter : Reporter) : Step → Option Reporter
  | .change update => some { reporter with cache := update reporter.cache }
  | .tick =>
    if !reporter.isOpen then none
    else if plan.workers ≤ reporter.queue.length then some reporter
    else some reporter.enqueue
  | .take =>
    match reporter.queue with
    | [] => none
    | ticket :: queue =>
      if reporter.hasIdle plan then
        some { reporter with queue, jobs := reporter.jobs ++ [⟨ticket, .sending, []⟩] }
      else none
  | .finish number result =>
    (reporter.findJob? number .sending).map fun job =>
      match result with
      | .ok () => reporter.settle job result job.failures
      | .error error =>
        match delayAfter? plan job error with
        | some _ => reporter.replace ⟨job.ticket, .waiting, error :: job.failures⟩
        | none => reporter.settle job result job.failures
  | .resume number =>
    (reporter.findJob? number .waiting).map fun job =>
      reporter.replace { job with stage := .sending }
  | .giveUp number =>
    if reporter.isOpen then none
    else
      match reporter.findJob? number .waiting with
      | some ⟨ticket, stage, error :: failures⟩ =>
        some (reporter.settle ⟨ticket, stage, error :: failures⟩ (.error error) failures)
      | _ => none
  | .cancel => if reporter.isOpen then some { reporter with isOpen := false } else none
  | .depart =>
    if !reporter.isOpen && reporter.queue.isEmpty && reporter.hasIdle plan then
      some { reporter with departed := reporter.departed + 1 }
    else none
  | .join =>
    if !reporter.isOpen && reporter.joined < reporter.departed then
      some { reporter with joined := reporter.joined + 1 }
    else none

def run (plan : ReporterPlan) (reporter : Reporter) (steps : List Step) : Option Reporter :=
  steps.foldlM (step plan) reporter

/-- Whether the reporter has waited for all its workers, with which it ends. -/
def hasEnded (plan : ReporterPlan) (reporter : Reporter) : Bool := reporter.joined == plan.workers

def inFlight (reporter : Reporter) : Nat :=
  (reporter.jobs.filter fun job => job.stage == .sending).length

end Reporter

end Telemetry
