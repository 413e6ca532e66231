import Telemetry.Agent.Reporter
import Telemetry.Timeline
/-!
A reporter in time. A period says when ticks are due, a carrier how long a request takes and how it
ends, a timeline how the cache changes; then of all that may happen next, the earliest happens.
After a cancellation the workers have a while to finish; those that do not are stopped.
-/

namespace Telemetry

/-- What brings batches to a server: how long the n-th request takes, and how it ends. -/
abbrev Carrier := Nat → Batch → Nat × Except DeliveryError Unit

structure Dispatch where
  begun : Nat
  ticket : Ticket
  ended : Option Nat

structure Reporting where
  plan : ReporterPlan
  /-- Milliseconds between two ticks. -/
  period : Nat
  /-- How long the workers may go on after the cancellation. -/
  grace : Nat
  carrier : Carrier
  cancelled : Nat

namespace Reporting

def standardGrace : Nat := 5000

/-- What a worker waits for: the end of a request, or the end of a wait. -/
structure Alarm where
  due : Nat
  step : Reporter.Step
  number : Nat
  isRequest : Bool

structure Moment where
  now : Nat
  reporter : Reporter
  nextTick : Nat
  changes : Timeline MetricCache
  alarms : List Alarm
  /-- The requests, the last one first. -/
  requests : List Dispatch
  /-- How many requests were under way at most. -/
  peak : Nat
  /-- The log, the last event first. -/
  events : List Log.Event
  isStopped : Bool

inductive Happening where
  | alarm (alarm : Alarm)
  | take
  | depart
  | join
  | change
  | tick
  | cancel
  | stop

/-- All that may happen next, with its instant; of the same instant, the first happens. -/
def agenda (reporting : Reporting) (moment : Moment) : List (Nat × Happening) :=
  let reporter := moment.reporter
  -- What workers and reporter do of themselves is done as soon as it can be.
  let atOnce (step : Reporter.Step) (happening : Happening) :=
    if (reporter.step reporting.plan step).isSome then [(moment.now, happening)] else []
  moment.alarms.map (fun alarm => (alarm.due, .alarm alarm)) ++
    atOnce .take .take ++ atOnce .depart .depart ++ atOnce .join .join ++
    (moment.changes.head?.map fun change => (change.1, Happening.change)).toList ++
    (if reporter.isOpen then [(moment.nextTick, .tick), (reporting.cancelled, .cancel)]
      else [(reporting.cancelled + reporting.grace, .stop)])

def earliest? : List (Nat × Happening) → Option (Nat × Happening)
  | [] => none
  | first :: rest =>
    match earliest? rest with
    | some later => if later.1 < first.1 then some later else some first
    | none => some first

def Moment.make (reporting : Reporting) (moment : Moment) (step : Reporter.Step) : Moment :=
  match moment.reporter.step reporting.plan step with
  | some reporter => { moment with reporter, peak := max moment.peak reporter.inFlight }
  | none => moment

def Moment.begin (reporting : Reporting) (moment : Moment) (ticket : Ticket) : Moment :=
  let (duration, result) := reporting.carrier moment.requests.length ticket.batch
  { moment with
    requests := ⟨moment.now, ticket, none⟩ :: moment.requests
    alarms := moment.alarms ++
      [⟨moment.now + duration, .finish ticket.number result, ticket.number, true⟩] }

/-- Begins the wait after a failure, if the batch is to be sent again. After the cancellation
nobody waits. -/
def Moment.await (reporting : Reporting) (moment : Moment) (job : Job) (error : DeliveryError) :
    Moment :=
  match Reporter.delayAfter? reporting.plan job error with
  | none => moment
  | some delay =>
    let event := Backoff.retryEvent (job.failures.length + 1) delay error.message
    let number := job.ticket.number
    let alarm : Alarm :=
      if moment.reporter.isOpen then ⟨moment.now + delay, .resume number, number, false⟩
      else ⟨moment.now, .giveUp number, number, false⟩
    { moment with events := event :: moment.events, alarms := moment.alarms ++ [alarm] }

def Moment.close (moment : Moment) (number : Nat) : Moment :=
  { moment with
    requests := moment.requests.map fun request =>
      if request.ticket.number = number ∧ request.ended = none then
        { request with ended := some moment.now }
      else request }

def Moment.ring (reporting : Reporting) (moment : Moment) (alarm : Alarm) : Moment :=
  let quiet := { moment with
    alarms := moment.alarms.filter fun other => other.number != alarm.number }
  match alarm.step with
  | .finish number result =>
    let job := quiet.reporter.findJob? number .sending
    let after := (quiet.close number).make reporting alarm.step
    match job, result with
    | some job, .error error => after.await reporting job error
    | _, _ => after
  | .resume number =>
    let after := quiet.make reporting alarm.step
    match after.reporter.findJob? number .sending with
    | some job => after.begin reporting job.ticket
    | none => after
  | _ => quiet.make reporting alarm.step

def Moment.hurry (moment : Moment) : Moment :=
  { moment with
    alarms := moment.alarms.map fun alarm =>
      if alarm.isRequest then alarm
      else { alarm with due := moment.now, step := .giveUp alarm.number } }

def Moment.happen (reporting : Reporting) (moment : Moment) : Happening → Moment
  | .alarm alarm => moment.ring reporting alarm
  | .take =>
    match moment.reporter.queue with
    | [] => moment
    | ticket :: _ => (moment.make reporting .take).begin reporting ticket
  | .depart => moment.make reporting .depart
  | .join => moment.make reporting .join
  | .change =>
    match moment.changes with
    | [] => moment
    | (_, change) :: changes => { moment with changes }.make reporting (.change change)
  | .tick =>
    { moment with nextTick := moment.nextTick + reporting.period }.make reporting .tick
  | .cancel => (moment.make reporting .cancel).hurry
  | .stop => { moment with isStopped := true }

def advance (reporting : Reporting) : (steps : Nat) → Moment → Moment
  | 0, moment => moment
  | steps + 1, moment =>
    if moment.isStopped || moment.reporter.hasEnded reporting.plan then moment
    else
      match earliest? (reporting.agenda moment) with
      | none => moment
      | some (instant, happening) =>
        advance reporting steps ({ moment with now := instant }.happen reporting happening)

/-- More than the things that can happen: every tick takes at most one batch, every batch is taken
once, given up once, and sent and awaited as often as the schedule allows, and every worker leaves
and is waited for once. -/
def bound (reporting : Reporting) (changes : Timeline MetricCache) : Nat :=
  let ticks := reporting.cancelled / reporting.period + 1
  changes.length + 2 + 2 * reporting.plan.workers +
    ticks * (3 + 2 * reporting.plan.backoff.maxAttempts)

def run (reporting : Reporting) (changes : Timeline MetricCache) (cache : MetricCache) : Moment :=
  reporting.advance (reporting.bound changes)
    { now := 0
      reporter := .start cache
      nextTick := reporting.period
      changes
      alarms := []
      requests := []
      peak := 0
      events := []
      isStopped := false }

end Reporting

end Telemetry
