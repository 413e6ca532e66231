import Mathlib.Data.List.Nodup
import Mathlib.Data.List.Perm.Basic
import Telemetry.Agent.Reporter
/-!
The batches of a reporter, written down. What a step can do is said once (`Reporter.Moves`). Beside
a run stands a ledger of the batches that its ticks took, the tickets that its workers were handed
and the attempts that ended. How ledger and reporter agree is an invariant of the steps
(`Reporter.Ledger.Fits.of_moves`), so it holds after every run (`Reporter.Ledger.fits_after`).
-/

namespace Telemetry

namespace MetricCache

theorem reset_of_snapshot_nil {cache : MetricCache} (empty : cache.snapshot = []) (name : String) :
    cache.reset .counter name = cache := by
  have totals : cache.counters.entries = [] := by
    rw [snapshot_eq, List.append_eq_nil_iff] at empty
    exact List.map_eq_nil_iff.mp empty.2
  have missing : cache.counters.find? name = none := by
    rw [NameMap.find?, totals]
    rfl
  rw [reset, missing]
  rfl

end MetricCache

namespace Reporter

variable {plan : ReporterPlan} {reporter next last : Reporter} {step : Step} {steps : List Step}

/-! ### What a step can do -/

/-- The reporter after a tick that queued a batch. -/
def queued (reporter : Reporter) : Reporter :=
  { reporter with
    cache := reporter.cache.reset .counter MetricCache.pollCount
    queue := reporter.queue ++ [⟨reporter.taken, reporter.cache.snapshot⟩]
    taken := reporter.taken + 1 }

/-- The reporter after a worker was handed a ticket. -/
def handing (reporter : Reporter) (ticket : Ticket) (rest : List Ticket) : Reporter :=
  { reporter with queue := rest, jobs := reporter.jobs ++ [⟨ticket, .sending, []⟩] }

/-- An attempt after which there is no other one. -/
def isFinal (plan : ReporterPlan) (job : Job) : Except DeliveryError Unit → Bool
  | .ok () => true
  | .error error => (delayAfter? plan job error).isNone

/-- Everything that can happen to a reporter in a step, with the conditions under which it does. -/
inductive Moves (plan : ReporterPlan) (reporter : Reporter) : Step → Reporter → Prop
  | changed (update : MetricCache → MetricCache) :
      Moves plan reporter (.change update) { reporter with cache := update reporter.cache }
  | skipped (isOpen : reporter.isOpen = true) (full : plan.workers ≤ reporter.queue.length) :
      Moves plan reporter .tick reporter
  | idled (isOpen : reporter.isOpen = true) (room : reporter.queue.length < plan.workers)
      (empty : reporter.cache.snapshot = []) : Moves plan reporter .tick reporter
  | queued (isOpen : reporter.isOpen = true) (room : reporter.queue.length < plan.workers)
      (filled : reporter.cache.snapshot ≠ []) : Moves plan reporter .tick reporter.queued
  | handed {ticket : Ticket} {rest : List Ticket} (oldest : reporter.queue = ticket :: rest)
      (idle : reporter.jobs.length + reporter.departed < plan.workers) :
      Moves plan reporter .take (reporter.handing ticket rest)
  | settled {job : Job} {result : Except DeliveryError Unit} (member : job ∈ reporter.jobs)
      (final : isFinal plan job result = true) :
      Moves plan reporter (.finish job.ticket.number result)
        (reporter.settle job result job.failures)
  | failed {job : Job} {error : DeliveryError} (member : job ∈ reporter.jobs)
      (again : isFinal plan job (.error error) = false) :
      Moves plan reporter (.finish job.ticket.number (.error error))
        (reporter.replace ⟨job.ticket, .waiting, error :: job.failures⟩)
  | resumed {job : Job} (member : job ∈ reporter.jobs) :
      Moves plan reporter (.resume job.ticket.number)
        (reporter.replace { job with stage := .sending })
  | gaveUp {job : Job} {error : DeliveryError} {failures : List DeliveryError}
      (isClosed : reporter.isOpen = false) (member : job ∈ reporter.jobs)
      (failed : job.failures = error :: failures) :
      Moves plan reporter (.giveUp job.ticket.number)
        (reporter.settle job (.error error) failures)
  | cancelled (isOpen : reporter.isOpen = true) :
      Moves plan reporter .cancel { reporter with isOpen := false }
  | departed (isClosed : reporter.isOpen = false) (empty : reporter.queue = [])
      (idle : reporter.jobs.length + reporter.departed < plan.workers) :
      Moves plan reporter .depart { reporter with departed := reporter.departed + 1 }
  | joined (isClosed : reporter.isOpen = false) (waits : reporter.joined < reporter.departed) :
      Moves plan reporter .join { reporter with joined := reporter.joined + 1 }

theorem enqueue_eq (reporter : Reporter) :
    reporter.enqueue = if reporter.cache.snapshot = [] then reporter else reporter.queued := by
  unfold enqueue MetricCache.takeBatch
  by_cases empty : reporter.cache.snapshot = []
  · rw [if_pos empty]
    simp only [empty, List.isEmpty_nil, if_true, MetricCache.reset_of_snapshot_nil empty]
  · rw [if_neg empty]
    simp only [List.isEmpty_eq_false_iff.mpr empty]
    rfl

theorem findJob?_eq_some {number : Nat} {stage : JobStage} {job : Job}
    (found : reporter.findJob? number stage = some job) :
    job ∈ reporter.jobs ∧ job.ticket.number = number := by
  refine ⟨List.mem_of_find?_eq_some found, ?_⟩
  have matched := List.find?_some found
  rw [Bool.and_eq_true] at matched
  exact beq_iff_eq.mp matched.1

theorem moves_of_step (stepped : reporter.step plan step = some next) :
    Moves plan reporter step next := by
  cases step with
  | change update =>
    cases stepped
    exact .changed update
  | tick =>
    simp only [Reporter.step] at stepped
    cases isOpen : reporter.isOpen with
    | false =>
      rw [isOpen] at stepped
      cases stepped
    | true =>
      rw [isOpen] at stepped
      simp only [Bool.not_true, Bool.false_eq_true, if_false] at stepped
      by_cases full : plan.workers ≤ reporter.queue.length
      · rw [if_pos full] at stepped
        cases stepped
        exact .skipped isOpen full
      · rw [if_neg full, enqueue_eq] at stepped
        by_cases empty : reporter.cache.snapshot = []
        · rw [if_pos empty] at stepped
          cases stepped
          exact .idled isOpen (Nat.not_le.mp full) empty
        · rw [if_neg empty] at stepped
          cases stepped
          exact .queued isOpen (Nat.not_le.mp full) empty
  | take =>
    simp only [Reporter.step] at stepped
    split at stepped
    · cases stepped
    · rename_i ticket rest oldest
      by_cases idle : reporter.hasIdle plan = true
      · rw [if_pos idle] at stepped
        cases stepped
        exact .handed oldest (of_decide_eq_true idle)
      · rw [if_neg idle] at stepped
        cases stepped
  | finish number result =>
    obtain ⟨job, found, ended⟩ := Option.map_eq_some_iff.mp stepped
    obtain ⟨member, rfl⟩ := findJob?_eq_some found
    cases result with
    | ok done =>
      cases ended
      exact .settled member rfl
    | error error =>
      cases waits : delayAfter? plan job error with
      | none =>
        simp only [waits] at ended
        cases ended
        exact .settled member (by rw [isFinal, waits]; rfl)
      | some delay =>
        simp only [waits] at ended
        cases ended
        exact .failed member (by rw [isFinal, waits]; rfl)
  | resume number =>
    obtain ⟨job, found, rfl⟩ := Option.map_eq_some_iff.mp stepped
    obtain ⟨member, rfl⟩ := findJob?_eq_some found
    exact .resumed member
  | giveUp number =>
    simp only [Reporter.step] at stepped
    cases isOpen : reporter.isOpen with
    | true =>
      rw [isOpen] at stepped
      cases stepped
    | false =>
      rw [isOpen] at stepped
      simp only [Bool.false_eq_true, if_false] at stepped
      split at stepped
      · rename_i ticket stage error failures found
        cases stepped
        obtain ⟨member, rfl⟩ := findJob?_eq_some found
        exact .gaveUp isOpen member rfl
      · cases stepped
  | cancel =>
    simp only [Reporter.step] at stepped
    by_cases isOpen : reporter.isOpen = true
    · rw [if_pos isOpen] at stepped
      cases stepped
      exact .cancelled isOpen
    · rw [if_neg isOpen] at stepped
      cases stepped
  | depart =>
    obtain ⟨leaves, same⟩ := Option.ite_some_none_eq_some.mp stepped
    rw [Bool.and_eq_true, Bool.and_eq_true, Bool.not_eq_true', List.isEmpty_iff] at leaves
    obtain ⟨⟨isClosed, empty⟩, idle⟩ := leaves
    exact same ▸ .departed isClosed empty (of_decide_eq_true idle)
  | join =>
    obtain ⟨waits, same⟩ := Option.ite_some_none_eq_some.mp stepped
    rw [Bool.and_eq_true, Bool.not_eq_true'] at waits
    exact same ▸ .joined waits.1 (of_decide_eq_true waits.2)

theorem run_cons (ran : reporter.run plan (step :: steps) = some last) :
    ∃ next, reporter.step plan step = some next ∧ Moves plan reporter step next ∧
      next.run plan steps = some last := by
  rw [run, List.foldlM_cons] at ran
  obtain ⟨next, stepped, ranRest⟩ := Option.bind_eq_some_iff.mp ran
  exact ⟨next, stepped, moves_of_step stepped, ranRest⟩

/-! ### The ledger of a run -/

/-- What is seen of a run: the batches that were taken from the cache, the tickets that workers were
handed, and the attempts that ended; of each, the earliest comes first. -/
structure Ledger where
  taken : List Batch
  handed : List Ticket
  attempts : List (Nat × Except DeliveryError Unit)

/-- The tickets of batches, numbered in their order. -/
def tickets (batches : List Batch) : List Ticket :=
  batches.zipIdx.map fun (batch, number) => ⟨number, batch⟩

namespace Ledger

def empty : Ledger := ⟨[], [], []⟩

/-- What a step adds. A tick takes the batch that is in the cache, if there is room and a batch. -/
def note (plan : ReporterPlan) (ledger : Ledger) (reporter : Reporter) : Step → Ledger
  | .tick =>
    let batch := reporter.cache.takeBatch.1
    if plan.workers ≤ reporter.queue.length ∨ batch.isEmpty then ledger
    else { ledger with taken := ledger.taken ++ [batch] }
  | .take => { ledger with handed := ledger.handed ++ reporter.queue.head?.toList }
  | .finish number result => { ledger with attempts := ledger.attempts ++ [(number, result)] }
  | _ => ledger

/-- The ledger after steps of a reporter. -/
def after (plan : ReporterPlan) (ledger : Ledger) (reporter : Reporter) : List Step → Ledger
  | [] => ledger
  | step :: rest =>
    match reporter.step plan step with
    | some next => after plan (ledger.note plan reporter step) next rest
    | none => ledger

def results (ledger : Ledger) (number : Nat) : List (Except DeliveryError Unit) :=
  (ledger.attempts.filter fun attempt => attempt.1 == number).map Prod.snd

end Ledger

/-- The attempts to send a batch, of which the schedule allows for at least one more: they are these
failures, the last one first, and all of them may pass. -/
structure Tries (plan : ReporterPlan) (results : List (Except DeliveryError Unit))
    (failures : List DeliveryError) : Prop where
  results_eq : results = failures.reverse.map .error
  transient : ∀ error ∈ failures, error.isTransient = true
  length_le : failures.length ≤ plan.backoff.delays.length

/-- The agreement of a reporter with the ledger of its run. -/
structure Ledger.Fits (plan : ReporterPlan) (ledger : Ledger) (reporter : Reporter) : Prop where
  counted : reporter.taken = ledger.taken.length
  ordered : ledger.handed ++ reporter.queue = tickets ledger.taken
  placed : (reporter.jobs.map Job.ticket ++ reporter.settlements.map Settlement.ticket).Perm
    ledger.handed
  busy : reporter.jobs.length ≤ plan.workers
  queued : reporter.queue.length ≤ plan.workers
  /-- Nothing was attempted but what was handed to a worker. -/
  known : ∀ attempt ∈ ledger.attempts, attempt.1 < ledger.handed.length
  tried : ∀ job ∈ reporter.jobs, Tries plan (ledger.results job.ticket.number) job.failures
  settled : ∀ settlement ∈ reporter.settlements, ∃ earlier,
    ledger.results settlement.ticket.number = earlier ++ [settlement.result] ∧
      Tries plan earlier settlement.failures

theorem tickets_append (batches : List Batch) (batch : Batch) :
    tickets (batches ++ [batch]) = tickets batches ++ [⟨batches.length, batch⟩] := by
  simp [tickets, List.zipIdx_append]

theorem length_tickets (batches : List Batch) : (tickets batches).length = batches.length := by
  simp [tickets]

theorem map_number_tickets (batches : List Batch) :
    (tickets batches).map Ticket.number = List.range batches.length := by
  simp [tickets, List.range_eq_range', Function.comp_def]

/-! ### Steps and the ledger -/

/-- A job is put in front of the others, which are told from it by their numbers. -/
theorem perm_cons_filter {jobs : List Job} {job : Job} (member : job ∈ jobs)
    (once : (jobs.map fun other => other.ticket.number).Nodup) :
    (job :: jobs.filter fun other => other.ticket.number != job.ticket.number).Perm jobs := by
  induction jobs with
  | nil => cases member
  | cons head rest ih =>
    obtain ⟨fresh, onceRest⟩ := List.nodup_cons.mp once
    rcases List.mem_cons.mp member with rfl | inside
    · have others : rest.filter (fun other => other.ticket.number != job.ticket.number) = rest := by
        apply List.filter_eq_self.mpr
        intro other found
        apply bne_iff_ne.mpr
        intro same
        exact fresh (List.mem_map.mpr ⟨other, found, same⟩)
      rw [List.filter_cons_of_neg (by simp), others]
    · have different : head.ticket.number ≠ job.ticket.number := by
        intro same
        exact fresh (List.mem_map.mpr ⟨job, inside, same.symm⟩)
      have kept : (head.ticket.number != job.ticket.number) = true := bne_iff_ne.mpr different
      simp only [List.filter_cons, kept, if_true]
      exact (List.Perm.swap _ _ _).trans ((ih inside onceRest).cons head)

theorem mem_jobs_replace {job other : Job} (member : other ∈ (reporter.replace job).jobs) :
    other = job ∨ other ∈ reporter.jobs ∧ other.ticket.number ≠ job.ticket.number := by
  obtain ⟨source, found, rfl⟩ := List.mem_map.mp member
  by_cases same : source.ticket.number = job.ticket.number
  · exact .inl (if_pos same)
  · rw [if_neg same]
    exact .inr ⟨found, same⟩

theorem map_ticket_replace {job next : Job} (ticket : next.ticket = job.ticket)
    (member : job ∈ reporter.jobs)
    (once : (reporter.jobs.map fun other => other.ticket.number).Nodup) :
    (reporter.replace next).jobs.map Job.ticket = reporter.jobs.map Job.ticket := by
  simp only [replace, List.map_map]
  apply List.map_congr_left
  intro other found
  rw [Function.comp_apply]
  by_cases same : other.ticket.number = next.ticket.number
  · have equal : other = job :=
      List.inj_on_of_nodup_map once found member (by rw [same, ticket])
    rw [if_pos same, equal, ticket]
  · rw [if_neg same]

theorem Tries.nothing : Tries plan [] [] :=
  ⟨rfl, nofun, Nat.zero_le _⟩

/-- After a failure that is not the end, the schedule allows for another attempt. -/
theorem Tries.failed {results : List (Except DeliveryError Unit)} {job : Job}
    {error : DeliveryError} (tries : Tries plan results job.failures)
    (again : isFinal plan job (.error error) = false) :
    Tries plan (results ++ [.error error]) (error :: job.failures) := by
  simp only [isFinal, delayAfter?] at again
  cases passes : error.isTransient with
  | false =>
    rw [passes] at again
    cases again
  | true =>
    rw [passes] at again
    have allowed : job.failures.length < plan.backoff.delays.length := by
      simpa using again
    refine ⟨?_, ?_, allowed⟩
    · rw [tries.results_eq, List.reverse_cons, List.map_append]
      rfl
    · intro other member
      rcases List.mem_cons.mp member with rfl | earlier
      · exact passes
      · exact tries.transient other earlier

theorem Tries.withdraw {results : List (Except DeliveryError Unit)} {error : DeliveryError}
    {failures : List DeliveryError} (tries : Tries plan results (error :: failures)) :
    ∃ earlier, results = earlier ++ [.error error] ∧ Tries plan earlier failures := by
  refine ⟨failures.reverse.map .error, ?_, rfl, ?_, Nat.le_of_succ_le tries.length_le⟩
  · rw [tries.results_eq, List.reverse_cons, List.map_append]
    rfl
  · intro other member
    exact tries.transient other (List.mem_cons_of_mem _ member)

namespace Ledger

variable {ledger : Ledger}

theorem results_attempted (number : Nat) (result : Except DeliveryError Unit) (other : Nat) :
    { ledger with attempts := ledger.attempts ++ [(number, result)] }.results other =
      if other = number then ledger.results other ++ [result] else ledger.results other := by
  unfold results
  by_cases same : other = number
  · subst same
    simp
  · have different : (number == other) = false := beq_eq_false_iff_ne.mpr (Ne.symm same)
    simp [same, different]

namespace Fits

variable (fits : ledger.Fits plan reporter)

include fits

theorem length_handed_le : ledger.handed.length ≤ ledger.taken.length := by
  have lengths := congrArg List.length fits.ordered
  rw [List.length_append, length_tickets] at lengths
  omega

/-- Tickets are handed out in the order of their numbers. -/
theorem map_number_handed : ledger.handed.map Ticket.number = List.range ledger.handed.length := by
  have numbers := congrArg (List.map Ticket.number) fits.ordered
  rw [List.map_append, map_number_tickets] at numbers
  have front := congrArg (List.take ledger.handed.length) numbers
  rw [List.take_left' (List.length_map _), List.take_range,
    Nat.min_eq_left fits.length_handed_le] at front
  exact front

theorem nodup_numbers :
    ((reporter.jobs.map fun job => job.ticket.number) ++
      reporter.settlements.map fun settlement => settlement.ticket.number).Nodup := by
  have same := fits.placed.map Ticket.number
  rw [fits.map_number_handed, List.map_append, List.map_map, List.map_map] at same
  exact same.nodup_iff.mpr List.nodup_range

theorem nodup_jobs : (reporter.jobs.map fun job => job.ticket.number).Nodup :=
  (List.nodup_append.mp fits.nodup_numbers).1

theorem ne_of_settled {job : Job} (member : job ∈ reporter.jobs) {settlement : Settlement}
    (done : settlement ∈ reporter.settlements) :
    settlement.ticket.number ≠ job.ticket.number := by
  intro same
  exact (List.nodup_append.mp fits.nodup_numbers).2.2 job.ticket.number
    (List.mem_map.mpr ⟨job, member, rfl⟩) settlement.ticket.number
    (List.mem_map.mpr ⟨settlement, done, rfl⟩) same.symm

theorem number_lt {job : Job} (member : job ∈ reporter.jobs) :
    job.ticket.number < ledger.handed.length := by
  have handed : job.ticket ∈ ledger.handed :=
    fits.placed.subset (List.mem_append_left _ (List.mem_map.mpr ⟨job, member, rfl⟩))
  have numbered := List.mem_map_of_mem (f := Ticket.number) handed
  rw [fits.map_number_handed] at numbered
  exact List.mem_range.mp numbered

theorem number_oldest {ticket : Ticket} {rest : List Ticket}
    (oldest : reporter.queue = ticket :: rest) : ticket.number = ledger.handed.length := by
  have numbers := congrArg (List.map Ticket.number) fits.ordered
  rw [oldest, List.map_append, map_number_tickets] at numbers
  have place := congrArg (fun list => list[ledger.handed.length]?) numbers
  have within : ledger.handed.length < ledger.taken.length := by
    have lengths := congrArg List.length fits.ordered
    rw [oldest, List.length_append, List.length_cons, length_tickets] at lengths
    omega
  simpa [List.getElem?_append_right, List.getElem?_range within] using place

theorem results_of_le {number : Nat} (fresh : ledger.handed.length ≤ number) :
    ledger.results number = [] := by
  have nothing : ledger.attempts.filter (fun attempt => attempt.1 == number) = [] := by
    apply List.filter_eq_nil_iff.mpr
    intro attempt member same
    have below := fits.known attempt member
    rw [beq_iff_eq.mp same] at below
    omega
  rw [results, nothing]
  rfl

/-- A settled job leaves the workers and joins the settlements. -/
theorem placed_settle {job : Job} (member : job ∈ reporter.jobs)
    (result : Except DeliveryError Unit) (failures : List DeliveryError) :
    ((reporter.settle job result failures).jobs.map Job.ticket ++
      (reporter.settle job result failures).settlements.map Settlement.ticket).Perm
      ledger.handed := by
  have moved := (perm_cons_filter member fits.nodup_jobs).map Job.ticket
  rw [List.map_cons] at moved
  calc (reporter.settle job result failures).jobs.map Job.ticket ++
        job.ticket :: reporter.settlements.map Settlement.ticket
    _ |>.Perm (job.ticket :: ((reporter.settle job result failures).jobs.map Job.ticket ++
        reporter.settlements.map Settlement.ticket)) := List.perm_middle
    _ |>.Perm (reporter.jobs.map Job.ticket ++ reporter.settlements.map Settlement.ticket) :=
      moved.append_right _
    _ |>.Perm ledger.handed := fits.placed

theorem placed_replace {job next : Job} (member : job ∈ reporter.jobs)
    (same : next.ticket = job.ticket) :
    ((reporter.replace next).jobs.map Job.ticket ++
      (reporter.replace next).settlements.map Settlement.ticket).Perm ledger.handed := by
  rw [map_ticket_replace same member fits.nodup_jobs]
  exact fits.placed

theorem tried_of_ne {job : Job} (result : Except DeliveryError Unit) {other : Job}
    (inside : other ∈ reporter.jobs) (different : other.ticket.number ≠ job.ticket.number) :
    Tries plan ({ ledger with
      attempts := ledger.attempts ++ [(job.ticket.number, result)] }.results other.ticket.number)
      other.failures := by
  rw [results_attempted, if_neg different]
  exact fits.tried other inside

theorem settled_of_attempt {job : Job} (member : job ∈ reporter.jobs)
    (result : Except DeliveryError Unit) {settlement : Settlement}
    (done : settlement ∈ reporter.settlements) :
    ∃ earlier, { ledger with
        attempts := ledger.attempts ++ [(job.ticket.number, result)] }.results
          settlement.ticket.number = earlier ++ [settlement.result] ∧
      Tries plan earlier settlement.failures := by
  rw [results_attempted, if_neg (fits.ne_of_settled member done)]
  exact fits.settled settlement done

theorem known_attempt {job : Job} (member : job ∈ reporter.jobs)
    (result : Except DeliveryError Unit) :
    ∀ attempt ∈ ledger.attempts ++ [(job.ticket.number, result)],
      attempt.1 < ledger.handed.length := by
  intro attempt inside
  rcases List.mem_append.mp inside with before | now
  · exact fits.known attempt before
  · rw [List.mem_singleton.mp now]
    exact fits.number_lt member

theorem queued_batch (room : reporter.queue.length < plan.workers) :
    { ledger with taken := ledger.taken ++ [reporter.cache.snapshot] }.Fits plan
      reporter.queued where
  counted := by
    rw [List.length_append, ← fits.counted]
    rfl
  ordered := by
    rw [tickets_append, ← fits.ordered, ← fits.counted, List.append_assoc]
    rfl
  placed := fits.placed
  busy := fits.busy
  queued := by
    rw [Reporter.queued, List.length_append]
    exact room
  known := fits.known
  tried := fits.tried
  settled := fits.settled

theorem handed_ticket {ticket : Ticket} {rest : List Ticket}
    (oldest : reporter.queue = ticket :: rest)
    (idle : reporter.jobs.length + reporter.departed < plan.workers) :
    { ledger with handed := ledger.handed ++ [ticket] }.Fits plan
      (reporter.handing ticket rest) where
  counted := fits.counted
  ordered := by
    rw [← fits.ordered, oldest, List.append_assoc]
    rfl
  placed := by
    simp only [handing, List.map_append, List.append_assoc, List.map_cons, List.map_nil]
    refine (List.perm_middle.trans (fits.placed.cons ticket)).trans ?_
    exact (List.perm_append_singleton ticket ledger.handed).symm
  busy := by
    rw [handing, List.length_append]
    exact Nat.lt_of_le_of_lt (Nat.le_add_right _ _) idle
  queued := by
    have within := fits.queued
    rw [oldest] at within
    exact Nat.le_of_succ_le within
  known := by
    intro attempt member
    rw [List.length_append]
    exact Nat.lt_succ_of_lt (fits.known attempt member)
  tried := by
    intro job member
    rcases List.mem_append.mp member with before | fresh
    · exact fits.tried job before
    · rw [List.mem_singleton.mp fresh]
      have nothing := fits.results_of_le (Nat.le_of_eq (fits.number_oldest oldest).symm)
      exact nothing.symm ▸ Tries.nothing
  settled := fits.settled

theorem settled_job {job : Job} {result : Except DeliveryError Unit}
    (member : job ∈ reporter.jobs) :
    { ledger with attempts := ledger.attempts ++ [(job.ticket.number, result)] }.Fits plan
      (reporter.settle job result job.failures) where
  counted := fits.counted
  ordered := fits.ordered
  placed := fits.placed_settle member result job.failures
  busy := Nat.le_trans (List.length_filter_le _ _) fits.busy
  queued := fits.queued
  known := fits.known_attempt member result
  tried := by
    intro other left
    obtain ⟨inside, different⟩ := List.mem_filter.mp left
    exact fits.tried_of_ne result inside (bne_iff_ne.mp different)
  settled := by
    intro settlement done
    rcases List.mem_cons.mp done with rfl | before
    · refine ⟨ledger.results job.ticket.number, ?_, fits.tried job member⟩
      rw [results_attempted, if_pos rfl]
    · exact fits.settled_of_attempt member result before

theorem failed_job {job : Job} {error : DeliveryError} (member : job ∈ reporter.jobs)
    (again : isFinal plan job (.error error) = false) :
    { ledger with
      attempts := ledger.attempts ++ [(job.ticket.number, Except.error error)] }.Fits plan
      (reporter.replace ⟨job.ticket, .waiting, error :: job.failures⟩) where
  counted := fits.counted
  ordered := fits.ordered
  placed := fits.placed_replace member rfl
  busy := by
    rw [replace, List.length_map]
    exact fits.busy
  queued := fits.queued
  known := fits.known_attempt member (.error error)
  tried := by
    intro other left
    rcases mem_jobs_replace left with rfl | ⟨inside, different⟩
    · rw [results_attempted, if_pos rfl]
      exact (fits.tried job member).failed again
    · exact fits.tried_of_ne (.error error) inside different
  settled := fun _ done => fits.settled_of_attempt member (.error error) done

theorem resumed_job {job : Job} (member : job ∈ reporter.jobs) :
    ledger.Fits plan (reporter.replace { job with stage := .sending }) where
  counted := fits.counted
  ordered := fits.ordered
  placed := fits.placed_replace member rfl
  busy := by
    rw [replace, List.length_map]
    exact fits.busy
  queued := fits.queued
  known := fits.known
  tried := by
    intro other left
    rcases mem_jobs_replace left with rfl | ⟨inside, -⟩
    · exact fits.tried job member
    · exact fits.tried other inside
  settled := fits.settled

theorem given_up {job : Job} {error : DeliveryError} {failures : List DeliveryError}
    (member : job ∈ reporter.jobs) (failed : job.failures = error :: failures) :
    ledger.Fits plan (reporter.settle job (.error error) failures) where
  counted := fits.counted
  ordered := fits.ordered
  placed := fits.placed_settle member (.error error) failures
  busy := Nat.le_trans (List.length_filter_le _ _) fits.busy
  queued := fits.queued
  known := fits.known
  tried := fun other left => fits.tried other (List.mem_filter.mp left).1
  settled := by
    intro settlement done
    rcases List.mem_cons.mp done with rfl | before
    · have tries := fits.tried job member
      rw [failed] at tries
      exact tries.withdraw
    · exact fits.settled settlement before

/-- The agreement of reporter and ledger survives every step. -/
theorem of_moves (moves : Moves plan reporter step next) :
    (ledger.note plan reporter step).Fits plan next := by
  cases moves with
  | changed | cancelled | departed | joined =>
    exact ⟨fits.counted, fits.ordered, fits.placed, fits.busy, fits.queued, fits.known,
      fits.tried, fits.settled⟩
  | skipped isOpen full =>
    rw [note, if_pos (.inl full)]
    exact fits
  | idled isOpen room empty =>
    rw [note, if_pos (.inr (List.isEmpty_iff.mpr empty))]
    exact fits
  | queued isOpen room filled =>
    have takes : ¬(plan.workers ≤ reporter.queue.length ∨
        reporter.cache.takeBatch.1.isEmpty) := by
      rintro (full | empty)
      · exact Nat.not_le.mpr room full
      · exact filled (List.isEmpty_iff.mp empty)
    rw [note, if_neg takes]
    exact fits.queued_batch room
  | @handed ticket rest oldest idle =>
    rw [note, oldest]
    exact fits.handed_ticket oldest idle
  | settled member final => exact fits.settled_job member
  | failed member again => exact fits.failed_job member again
  | resumed member => exact fits.resumed_job member
  | gaveUp isClosed member failed => exact fits.given_up member failed

end Fits

theorem fits_start (plan : ReporterPlan) (cache : MetricCache) :
    empty.Fits plan (.start cache) where
  counted := rfl
  ordered := rfl
  placed := .refl []
  busy := Nat.zero_le _
  queued := Nat.zero_le _
  known := nofun
  tried := nofun
  settled := nofun

theorem fits_after (fits : ledger.Fits plan reporter)
    (ran : reporter.run plan steps = some last) :
    (ledger.after plan reporter steps).Fits plan last := by
  induction steps generalizing ledger reporter with
  | nil =>
    cases ran
    exact fits
  | cons step rest ih =>
    obtain ⟨next, stepped, moves, ranRest⟩ := run_cons ran
    rw [after, stepped]
    exact ih (fits.of_moves moves) ranRest

end Ledger

end Reporter

end Telemetry
