import Telemetry.Agent.Cache
import Telemetry.Agent.Delivery
import Telemetry.Proofs.Merging
/-!
Polls that come while a batch is taken from the cache. A poll is applied as one, but a batch is
taken in three sections: the levels are read, the totals are read, and the count of the polls is set
to zero. Without a poll between them they make what the cache does (`Polling.run_alone`).

What was reported and what is held add up to the polls if those are added that were missed, between
the reading of the totals and the reset (`Polling.reported_add_held`). So one poll at that place is
lost (`Polling.poll_missed`), and none is lost if they all come elsewhere
(`Polling.missed_eq_zero`).
-/

namespace Telemetry

/-! ### The count of the polls -/

namespace MetricCache

/-- The polls that a cache has counted since it was last set to zero. -/
def held (cache : MetricCache) : Int64 := (cache.counters.find? pollCount).getD 0

/-- The polls that a batch reports. -/
def reported (batch : List Metric) : Int64 :=
  (batch.findSome? (Metric.delta? pollCount)).getD 0

variable (cache : MetricCache)

theorem findSome?_totals (name : String) :
    cache.totals.findSome? (Metric.delta? name) = cache.counters.find? name := by
  rw [totals_eq, counterMetrics, NameMap.find?]
  induction cache.counters.entries with
  | nil => rfl
  | cons entry rest ih =>
    obtain ⟨other, total⟩ := entry
    by_cases same : other = name
    · simp [Metric.delta?, Metric.counter, same]
    · simp only [List.map_cons, List.findSome?_cons, List.find?_cons, Metric.delta?,
        Metric.counter, if_neg same, beq_eq_false_iff_ne.mpr same]
      exact ih

theorem findSome?_levels (name : String) : cache.levels.findSome? (Metric.delta? name) = none := by
  rw [levels_eq, List.findSome?_eq_none_iff]
  intro metric member
  obtain ⟨entry, _inside, rfl⟩ := List.mem_map.mp member
  rfl

/-- A batch reports what the cache held when its totals were read, whenever its levels were. -/
theorem reported_append (earlier : MetricCache) :
    reported (earlier.levels ++ cache.totals) = cache.held := by
  rw [reported, List.findSome?_append, findSome?_levels, Option.none_or, findSome?_totals, held]

theorem held_reset : (cache.reset .counter pollCount).held = 0 := by
  cases known : cache.counters.find? pollCount with
  | none =>
    have same : cache.reset .counter pollCount = cache := by
      simp only [reset, known, Option.isSome_none, Bool.false_eq_true, if_false]
    rw [same, held, known]
    rfl
  | some total =>
    have zeroed : cache.reset .counter pollCount =
        { cache with counters := cache.counters.insert pollCount 0 } := by
      simp only [reset, known, Option.isSome_some, if_true]
    rw [zeroed, held, NameMap.find?_insert, if_pos rfl]
    rfl

theorem find?_addDelta (name other : String) (delta : Int64) :
    (cache.addDelta name delta).counters.find? other =
      if other = name then some ((cache.counters.find? name).getD 0 + delta)
      else cache.counters.find? other := by
  refine (NameMap.find?_insert cache.counters name other _).trans ?_
  cases cache.counters.find? name with
  | none => rw [Option.getD_none, Int64.zero_add]
  | some total => rfl

theorem held_addDelta (delta : Int64) :
    (cache.addDelta pollCount delta).held = cache.held + delta := by
  rw [held, find?_addDelta, if_pos rfl]
  rfl

theorem held_merge {metric : Metric} (apart : metric.delta? pollCount = none) :
    (cache.merge metric).held = cache.held := by
  obtain ⟨name, sample⟩ := metric
  cases sample with
  | gauge level => rfl
  | counter delta =>
    have different : pollCount ≠ name := by
      rintro rfl
      simp [Metric.delta?] at apart
    rw [held, merge, find?_addDelta, if_neg different, held]

/-- A poll is counted once, whatever it brings but counts of its own. -/
theorem held_applyPoll {samples : List Metric}
    (apart : ∀ metric ∈ samples, metric.delta? pollCount = none) :
    (cache.applyPoll samples).held = cache.held + 1 := by
  -- The samples leave the count alone, so that only the last step of the poll moves it.
  rw [applyPoll, held_addDelta]
  congr 1
  induction samples generalizing cache with
  | nil => rfl
  | cons metric rest ih =>
    have others := fun later member => apart later (List.mem_cons_of_mem _ member)
    rw [List.foldl_cons]
    by_cases taken : cache.takes metric.name = true
    · rw [if_pos taken, ih _ others, held_merge cache (apart metric List.mem_cons_self)]
    · rw [if_neg taken, ih _ others]

end MetricCache

/-! ### Sections -/

/-- How far a batch has been taken. -/
inductive BatchStage where
  | idle
  | levels (levels : Batch)
  /-- The batch is read; so many polls were applied since. -/
  | read (batch : Batch) (late : Nat)

def BatchStage.polled : BatchStage → BatchStage
  | .read batch late => .read batch (late + 1)
  | stage => stage

theorem BatchStage.levels_of_polled {stage : BatchStage} {found : Batch}
    (polled : stage.polled = .levels found) : stage = .levels found := by
  cases stage with
  | idle => cases polled
  | levels levels => exact polled
  | read batch late => cases polled

theorem BatchStage.read_of_polled {stage : BatchStage} {batch : Batch} {late : Nat}
    (polled : stage.polled = .read batch late) :
    ∃ earlier, stage = .read batch earlier ∧ late = earlier + 1 := by
  cases stage with
  | idle => cases polled
  | levels levels => cases polled
  | read found earlier =>
    cases polled
    exact ⟨earlier, rfl, rfl⟩

/-- A cache between samplers and a reporter. -/
structure Polling where
  cache : MetricCache
  stage : BatchStage
  batches : List Batch
  polls : Nat
  /-- The polls that came after the totals were read for a batch, and before the reset. -/
  missed : Nat

namespace Polling

inductive Step where
  | poll (samples : List Metric)
  | readLevels
  | readTotals
  | reset

def start (cache : MetricCache) : Polling := ⟨cache, .idle, [], 0, 0⟩

def step (polling : Polling) : Step → Option Polling
  | .poll samples => some { polling with
      cache := polling.cache.applyPoll samples
      stage := polling.stage.polled
      polls := polling.polls + 1 }
  | .readLevels =>
    match polling.stage with
    | .idle => some { polling with stage := .levels polling.cache.levels }
    | _ => none
  | .readTotals =>
    match polling.stage with
    | .levels levels => some { polling with stage := .read (levels ++ polling.cache.totals) 0 }
    | _ => none
  | .reset =>
    match polling.stage with
    | .read batch late => some { polling with
        cache := polling.cache.reset .counter MetricCache.pollCount
        stage := .idle
        batches := polling.batches ++ [batch]
        missed := polling.missed + late }
    | _ => none

def run (polling : Polling) (steps : List Step) : Option Polling := steps.foldlM step polling

def reported (polling : Polling) : Int64 := (polling.batches.map MetricCache.reported).sum

/-- No poll brings a count of its own. -/
def Step.IsApart : Step → Prop
  | .poll samples => ∀ metric ∈ samples, metric.delta? MetricCache.pollCount = none
  | _ => True

variable {polling next last : Polling} {steps : List Step}

theorem run_alone (cache : MetricCache) (batches : List Batch) (polls missed : Nat) :
    (Polling.mk cache .idle batches polls missed).run [.readLevels, .readTotals, .reset] =
      some ⟨cache.takeBatch.2, .idle, batches ++ [cache.takeBatch.1], polls, missed⟩ := rfl

/-- Everything that a step can do, with the conditions under which it does. -/
inductive Moves (polling : Polling) : Step → Polling → Prop
  | polled (samples : List Metric) : Moves polling (.poll samples) { polling with
      cache := polling.cache.applyPoll samples
      stage := polling.stage.polled
      polls := polling.polls + 1 }
  | levels (stage : polling.stage = .idle) :
      Moves polling .readLevels { polling with stage := .levels polling.cache.levels }
  | totals {levels : Batch} (stage : polling.stage = .levels levels) :
      Moves polling .readTotals { polling with
        stage := .read (levels ++ polling.cache.totals) 0 }
  | ended {batch : Batch} {late : Nat} (stage : polling.stage = .read batch late) :
      Moves polling .reset { polling with
        cache := polling.cache.reset .counter MetricCache.pollCount
        stage := .idle
        batches := polling.batches ++ [batch]
        missed := polling.missed + late }

theorem moves_of_step {step : Step} (stepped : polling.step step = some next) :
    Moves polling step next := by
  cases step with
  | poll samples =>
    cases stepped
    exact .polled samples
  | readLevels =>
    simp only [Polling.step] at stepped
    split at stepped
    · rename_i stage
      cases stepped
      exact .levels stage
    · cases stepped
  | readTotals =>
    simp only [Polling.step] at stepped
    split at stepped
    · rename_i levels stage
      cases stepped
      exact .totals stage
    · cases stepped
  | reset =>
    simp only [Polling.step] at stepped
    split at stepped
    · rename_i batch late stage
      cases stepped
      exact .ended stage
    · cases stepped

theorem run_cons {step : Step} (ran : polling.run (step :: steps) = some last) :
    ∃ next, Moves polling step next ∧ polling.step step = some next ∧
      next.run steps = some last := by
  rw [run, List.foldlM_cons] at ran
  obtain ⟨next, stepped, ranRest⟩ := Option.bind_eq_some_iff.mp ran
  exact ⟨next, moves_of_step stepped, stepped, ranRest⟩

/-- What was reported, is held and was missed are the polls, and those that the cache held at first.
A batch that is read reports all that is held but the polls that are late for it. -/
structure Balanced (first : Int64) (polling : Polling) : Prop where
  sum_eq : polling.reported + polling.cache.held + Int64.ofNat polling.missed =
    first + Int64.ofNat polling.polls
  levels_eq : ∀ levels, polling.stage = .levels levels →
    ∃ earlier : MetricCache, levels = earlier.levels
  read_eq : ∀ batch late, polling.stage = .read batch late →
    polling.cache.held = MetricCache.reported batch + Int64.ofNat late

namespace Balanced

variable {first : Int64} (balanced : Balanced first polling)

include balanced

theorem poll {samples : List Metric}
    (apart : ∀ metric ∈ samples, metric.delta? MetricCache.pollCount = none) :
    Balanced first { polling with
      cache := polling.cache.applyPoll samples
      stage := polling.stage.polled
      polls := polling.polls + 1 } where
  sum_eq := by
    have counted := polling.cache.held_applyPoll apart
    calc polling.reported + (polling.cache.applyPoll samples).held + Int64.ofNat polling.missed
      _ = polling.reported + polling.cache.held + Int64.ofNat polling.missed + 1 := by
        rw [counted]
        ac_rfl
      _ = first + Int64.ofNat (polling.polls + 1) := by
        rw [balanced.sum_eq, Int64.ofNat_add, Int64.add_assoc]
        rfl
  levels_eq := fun levels read => balanced.levels_eq levels (BatchStage.levels_of_polled read)
  read_eq := by
    intro batch late read
    obtain ⟨earlier, stage, rfl⟩ := BatchStage.read_of_polled read
    rw [polling.cache.held_applyPoll apart, balanced.read_eq batch earlier stage,
      Int64.ofNat_add, Int64.add_assoc]
    rfl

theorem reset {batch : Batch} {late : Nat} (stage : polling.stage = .read batch late) :
    Balanced first { polling with
      cache := polling.cache.reset .counter MetricCache.pollCount
      stage := .idle
      batches := polling.batches ++ [batch]
      missed := polling.missed + late } where
  sum_eq := by
    have read := balanced.read_eq batch late stage
    have longer : ((polling.batches ++ [batch]).map MetricCache.reported).sum =
        polling.reported + MetricCache.reported batch := by
      simp [reported]
    calc ((polling.batches ++ [batch]).map MetricCache.reported).sum +
          (polling.cache.reset .counter MetricCache.pollCount).held +
          Int64.ofNat (polling.missed + late)
      _ = polling.reported + (MetricCache.reported batch + Int64.ofNat late) +
          Int64.ofNat polling.missed := by
        rw [longer, MetricCache.held_reset, Int64.ofNat_add, Int64.add_zero]
        ac_rfl
      _ = first + Int64.ofNat polling.polls := by rw [← read, balanced.sum_eq]
  levels_eq := nofun
  read_eq := nofun

theorem of_moves {step : Step} (apart : step.IsApart) (moves : Moves polling step next) :
    Balanced first next := by
  cases moves with
  | polled samples => exact balanced.poll apart
  | levels stage =>
    refine ⟨balanced.sum_eq, ?_, nofun⟩
    rintro levels ⟨⟩
    exact ⟨polling.cache, rfl⟩
  | @totals levels stage =>
    obtain ⟨earlier, rfl⟩ := balanced.levels_eq levels stage
    refine ⟨balanced.sum_eq, nofun, ?_⟩
    rintro batch late ⟨⟩
    rw [MetricCache.reported_append]
    exact (Int64.add_zero _).symm
  | ended stage => exact balanced.reset stage

theorem of_run (apart : ∀ step ∈ steps, step.IsApart) (ran : polling.run steps = some last) :
    Balanced first last := by
  induction steps generalizing polling with
  | nil =>
    cases ran
    exact balanced
  | cons step rest ih =>
    obtain ⟨next, moves, _stepped, ranRest⟩ := run_cons ran
    exact ih (balanced.of_moves (apart step List.mem_cons_self) moves)
      (fun other member => apart other (List.mem_cons_of_mem _ member)) ranRest

end Balanced

theorem balanced_start (cache : MetricCache) : Balanced cache.held (start cache) where
  sum_eq := by
    change (0 : Int64) + cache.held + 0 = cache.held + 0
    rw [Int64.zero_add]
  levels_eq := nofun
  read_eq := nofun

theorem ofNat_eq_zero_iff (count : Nat) : Int64.ofNat count = 0 ↔ Int64.size ∣ count := by
  rw [← Int64.toBitVec_inj, ← BitVec.toNat_inj, Nat.dvd_iff_mod_eq_zero]
  exact Iff.of_eq rfl

/-- What was reported and what is held add up to the polls and what the cache held at first, if the
missed polls are added; without them, they do so when the missed polls come round to zero. -/
theorem reported_add_held (cache : MetricCache) (steps : List Step)
    (apart : ∀ step ∈ steps, step.IsApart) (last : Polling)
    (ran : (start cache).run steps = some last) :
    last.reported + last.cache.held + Int64.ofNat last.missed =
        cache.held + Int64.ofNat last.polls ∧
      (last.reported + last.cache.held = cache.held + Int64.ofNat last.polls ↔
        Int64.size ∣ last.missed) := by
  have balanced := (balanced_start cache).of_run apart ran
  refine ⟨balanced.sum_eq, ?_⟩
  rw [← balanced.sum_eq, ← ofNat_eq_zero_iff]
  constructor
  · intro same
    exact (Int64.add_right_inj _).mp ((same.symm.trans (Int64.add_zero _).symm))
  · intro zero
    rw [zero, Int64.add_zero]

/-- A poll while a batch is read and the count is not yet set to zero. -/
def missingSteps : List Step := [.poll [], .readLevels, .readTotals, .poll [], .reset]

theorem reported_add_held_missingSteps :
    ∃ last, (start (.new false)).run missingSteps = some last ∧
      last.reported + last.cache.held + 1 = 2 := by
  have apart : ∀ step ∈ missingSteps, step.IsApart := by
    intro step member
    simp only [missingSteps, List.mem_cons, List.not_mem_nil, or_false] at member
    rcases member with rfl | rfl | rfl | rfl | rfl
    · exact nofun
    · trivial
    · trivial
    · exact nofun
    · trivial
  exact ⟨_, rfl, (reported_add_held (.new false) missingSteps apart _ rfl).1⟩

/-- Between two ticks one of two polls is neither reported nor held. -/
theorem poll_missed :
    ∃ last, (start (.new false)).run missingSteps = some last ∧ last.stage = .idle ∧
      last.polls = 2 ∧ last.reported = 1 ∧ last.cache.held = 0 := by
  refine ⟨_, rfl, rfl, rfl, ?_, by decide⟩
  simp only [reported, MetricCache.levels_eq, MetricCache.totals_eq]
  decide

/-- No poll is missed if none comes while a batch is read and the count is not yet set to zero. -/
theorem missed_eq_zero (unmissed : polling.missed = 0)
    (early : ∀ batch late, polling.stage = .read batch late → late = 0)
    (ran : polling.run steps = some last)
    (between : ∀ before samples after middle, steps = before ++ .poll samples :: after →
      polling.run before = some middle → ∀ batch late, middle.stage ≠ .read batch late) :
    last.missed = 0 := by
  induction steps generalizing polling with
  | nil =>
    cases ran
    exact unmissed
  | cons step rest ih =>
    obtain ⟨next, moves, stepped, ranRest⟩ := run_cons ran
    have later : ∀ before samples after middle, rest = before ++ .poll samples :: after →
        next.run before = some middle → ∀ batch late, middle.stage ≠ .read batch late := by
      rintro before samples after middle rfl reached
      apply between (step :: before) samples after middle rfl
      rw [run, List.foldlM_cons, stepped]
      exact reached
    cases moves with
    | polled samples =>
      refine ih ?_ ?_ ranRest later
      · exact unmissed
      · intro batch late read
        obtain ⟨earlier, stage, _one⟩ := BatchStage.read_of_polled read
        exact absurd stage (between [] samples rest polling rfl rfl batch earlier)
    | levels stage =>
      refine ih ?_ ?_ ranRest later
      · exact unmissed
      · rintro batch late ⟨⟩
    | totals stage =>
      refine ih ?_ ?_ ranRest later
      · exact unmissed
      · rintro batch late ⟨⟩
        rfl
    | @ended batch late stage =>
      refine ih ?_ ?_ ranRest later
      · rw [unmissed, early batch late stage]
      · rintro other count ⟨⟩

end Polling

end Telemetry
