import Mathlib.Algebra.Ring.Nat
import Telemetry.Store.Error
/-!
When an operation is tried again, and for how long. Of an operation that ends as one outcome of a
sequence after another, the attempts are made at the start and after each of the delays that follow,
up to the first outcome that no further attempt can change or to the end of the schedule
(`Backoff.settling`). A cancellation ends the run in the wait that it falls into, so that only the
waits which are over by then are followed by an attempt (`Backoff.waitsBefore`). What attempts there
are and when, what comes of them and how long all of it takes is `Backoff.retry_keeps_schedule`.
-/

namespace Telemetry.Backoff

variable {ε α σ : Type} [Failure ε]

/-! ### One attempt -/

/-- An outcome after which the operation may be tried again. -/
def passes : Except ε α → Bool
  | .ok _ => false
  | .error error => Failure.isTransient error

theorem exists_error_of_passes {result : Except ε α} (passing : passes result = true) :
    ∃ error, result = .error error ∧ Failure.isTransient error = true := by
  cases result with
  | ok value => cases passing
  | error error => exact ⟨error, rfl, passing⟩

section Steps

variable {cancelled : Option Nat} {operation : Nat → σ → Except ε α × σ} {attempt now delay : Nat}
  {state after : σ} {delays : List Nat}

theorem retryFrom_settled {result : Except ε α} (tried : operation now state = (result, after))
    (settled : delays = [] ∨ passes result = false) :
    retryFrom cancelled operation attempt delays now state = ⟨result, after, now, []⟩ := by
  rw [retryFrom, tried]
  cases result with
  | ok value => rfl
  | error error =>
    cases delays with
    | nil => rfl
    | cons delay rest =>
      have permanent : Failure.isTransient error = false :=
        settled.resolve_left (List.cons_ne_nil delay rest)
      simp only [permanent, Bool.false_eq_true, if_false]

theorem retryFrom_interrupted {error : ε} {instant : Nat}
    (tried : operation now state = (.error error, after))
    (transient : Failure.isTransient error = true)
    (ended : interrupted? cancelled now delay = some instant) :
    retryFrom cancelled operation attempt (delay :: delays) now state =
      ⟨.error error, after, instant, [retryEvent attempt delay (Failure.message error)]⟩ := by
  rw [retryFrom, tried]
  simp only [transient, if_true, ended]

theorem retryFrom_waited {error : ε} (tried : operation now state = (.error error, after))
    (transient : Failure.isTransient error = true)
    (waited : interrupted? cancelled now delay = none) :
    retryFrom cancelled operation attempt (delay :: delays) now state =
      let outcome := retryFrom cancelled operation (attempt + 1) delays (now + delay) after
      { outcome with
        events := retryEvent attempt delay (Failure.message error) :: outcome.events } := by
  rw [retryFrom, tried]
  simp only [transient, if_true, waited]

end Steps

/-! ### Schedules -/

/-- The time from the first attempt to the attempt with a number of waits before it. -/
def timeUntil (delays : List Nat) (waits : Nat) : Nat := (delays.take waits).sum

/-- The number of waits before the attempt that settles the matter: the first one with an outcome
that does not pass, or the last one of the schedule. -/
def settling (delays : List Nat) (outcomes : Nat → Except ε α) : Nat :=
  (List.range delays.length).findIdx fun number => !passes (outcomes number)

/-- The number of waits that are over before a cancellation, which comes after some time or not at
all. -/
def waitsBefore (delays : List Nat) : Option Nat → Nat
  | none => delays.length
  | some time =>
    (List.range delays.length).countP fun number => decide (timeUntil delays (number + 1) < time)

/-- The operation that ends as one outcome of a sequence after another. Its state is the instants of
its attempts so far. -/
def following (outcomes : Nat → Except ε α) (now : Nat) (instants : List Nat) :
    Except ε α × List Nat :=
  (outcomes instants.length, instants ++ [now])

theorem timeUntil_zero (delays : List Nat) : timeUntil delays 0 = 0 := rfl

theorem timeUntil_cons (delay : Nat) (rest : List Nat) (waits : Nat) :
    timeUntil (delay :: rest) (waits + 1) = delay + timeUntil rest waits := by
  rw [timeUntil, List.take_succ_cons, List.sum_cons, timeUntil]

theorem settling_nil (outcomes : Nat → Except ε α) : settling [] outcomes = 0 := rfl

theorem settling_cons (delay : Nat) (rest : List Nat) (outcomes : Nat → Except ε α) :
    settling (delay :: rest) outcomes =
      if passes (outcomes 0) then settling rest (fun number => outcomes (number + 1)) + 1
      else 0 := by
  rw [settling, List.length_cons, List.range_succ_eq_map, List.findIdx_cons, List.findIdx_map]
  cases passes (outcomes 0) with
  | false => rfl
  | true => rfl

/-- No attempt before the settling one settles anything, and that one does unless there is no
delay left. -/
theorem settling_eq_iff (delays : List Nat) (outcomes : Nat → Except ε α) (number : Nat) :
    settling delays outcomes = number ↔
      number ≤ delays.length ∧ (∀ earlier < number, passes (outcomes earlier) = true) ∧
        (number < delays.length → passes (outcomes number) = false) := by
  induction delays generalizing outcomes number with
  | nil =>
    rw [settling_nil, List.length_nil]
    constructor
    · rintro rfl
      exact ⟨Nat.le_refl 0, nofun, nofun⟩
    · rintro ⟨none_, _all, _last⟩
      exact (Nat.le_zero.mp none_).symm
  | cons delay rest ih =>
    rw [settling_cons, List.length_cons]
    cases first : passes (outcomes 0) with
    | false =>
      rw [if_neg (by decide)]
      constructor
      · rintro rfl
        exact ⟨Nat.zero_le _, nofun, fun _ => first⟩
      · rintro ⟨_bound, all, _last⟩
        cases number with
        | zero => rfl
        | succ number => exact absurd ((all 0 (Nat.succ_pos number)).symm.trans first) (by decide)
    | true =>
      rw [if_pos rfl]
      cases number with
      | zero =>
        constructor
        · exact fun impossible => absurd impossible (Nat.succ_ne_zero _)
        · rintro ⟨_bound, _all, last⟩
          exact absurd (first.symm.trans (last (Nat.succ_pos _))) (by decide)
      | succ number =>
        rw [Nat.add_right_cancel_iff, ih]
        refine and_congr Nat.add_le_add_iff_right.symm (and_congr ?_ ?_)
        · constructor
          · intro all earlier before
            cases earlier with
            | zero => exact first
            | succ earlier => exact all earlier (Nat.lt_of_succ_lt_succ before)
          · exact fun all earlier before => all (earlier + 1) (Nat.succ_lt_succ before)
        · rw [Nat.add_lt_add_iff_right]

theorem settling_le (delays : List Nat) (outcomes : Nat → Except ε α) :
    settling delays outcomes ≤ delays.length :=
  ((settling_eq_iff delays outcomes _).mp rfl).1

theorem waitsBefore_cons_none (delay : Nat) (rest : List Nat) :
    waitsBefore (delay :: rest) none = waitsBefore rest none + 1 := rfl

theorem waitsBefore_cons_of_lt {delay time : Nat} (rest : List Nat) (later : delay < time) :
    waitsBefore (delay :: rest) (some time) = waitsBefore rest (some (time - delay)) + 1 := by
  have others : (fun number => decide (timeUntil (delay :: rest) (number + 1) < time)) ∘ Nat.succ =
      fun number => decide (timeUntil rest (number + 1) < time - delay) := by
    funext number
    rw [Function.comp_apply, timeUntil_cons, decide_eq_decide]
    omega
  have first : decide (timeUntil (delay :: rest) (0 + 1) < time) = true := by
    rw [timeUntil_cons, timeUntil_zero]
    exact decide_eq_true later
  rw [waitsBefore, List.length_cons, List.range_succ_eq_map, List.countP_cons, List.countP_map,
    others, if_pos first, waitsBefore]

theorem waitsBefore_cons_of_le {delay time : Nat} (rest : List Nat) (early : time ≤ delay) :
    waitsBefore (delay :: rest) (some time) = 0 := by
  rw [waitsBefore, List.countP_eq_zero]
  intro number _member
  rw [timeUntil_cons, decide_eq_true_eq]
  omega

/-- How long a run takes that would be settled after a number of waits: the delays of these waits,
or the time until the cancellation if they are not all over by then. -/
def duration (delays : List Nat) (waits : Nat) (cancelled : Option Nat) : Nat :=
  if waits ≤ waitsBefore delays cancelled then timeUntil delays waits else cancelled.getD 0

theorem duration_zero (delays : List Nat) (cancelled : Option Nat) :
    duration delays 0 cancelled = 0 :=
  if_pos (Nat.zero_le _)

theorem duration_none {delays : List Nat} {waits : Nat} (within : waits ≤ delays.length) :
    duration delays waits none = timeUntil delays waits :=
  if_pos within

theorem duration_cons_none (delay : Nat) {rest : List Nat} {waits : Nat}
    (within : waits ≤ rest.length) :
    duration (delay :: rest) (waits + 1) none = delay + duration rest waits none := by
  rw [duration_none within, duration_none (Nat.succ_le_succ within), timeUntil_cons]

theorem duration_cons_of_lt {delay time : Nat} (rest : List Nat) (waits : Nat)
    (later : delay < time) :
    duration (delay :: rest) (waits + 1) (some time) =
      delay + duration rest waits (some (time - delay)) := by
  rw [duration, duration, waitsBefore_cons_of_lt rest later, timeUntil_cons]
  by_cases waited : waits ≤ waitsBefore rest (some (time - delay))
  · rw [if_pos waited, if_pos (Nat.succ_le_succ waited)]
  · rw [if_neg waited, if_neg fun more => waited (Nat.le_of_succ_le_succ more)]
    exact (Nat.add_sub_of_le (Nat.le_of_lt later)).symm

/-! ### Runs -/

/-- What a run of attempts came to: it made the attempts with up to a number of waits before them,
each when it was due, it ended as the last of them did, and it took some time in all. -/
structure Made (delays : List Nat) (outcomes : Nat → Except ε α) (earlier : List Nat)
    (start last took : Nat) (outcome : Outcome ε α (List Nat)) : Prop where
  attempts : outcome.state =
    earlier ++ (List.range (last + 1)).map fun waits => start + timeUntil delays waits
  result : outcome.result = outcomes last
  finished : outcome.finished = start + took

section Runs

variable {delays earlier : List Nat} {outcomes : Nat → Except ε α} {start delay : Nat}

omit [Failure ε] in
theorem made_once (delays earlier : List Nat) (outcomes : Nat → Except ε α) (start took : Nat)
    (events : List Log.Event) :
    Made delays outcomes earlier start 0 took
      ⟨outcomes 0, earlier ++ [start], start + took, events⟩ :=
  ⟨rfl, rfl, rfl⟩

omit [Failure ε] in
/-- The attempts after a wait are those of what is left of the schedule. -/
theorem Made.waited {last took : Nat} {outcome : Outcome ε α (List Nat)}
    (made : Made delays (fun number => outcomes (number + 1)) (earlier ++ [start]) (start + delay)
      last took outcome) (events : List Log.Event) :
    Made (delay :: delays) outcomes earlier start (last + 1) (delay + took)
      { outcome with events } where
  attempts := by
    rw [made.attempts, List.range_succ_eq_map (n := last + 1)]
    simp [timeUntil_zero, timeUntil_cons, Function.comp_def, Nat.add_assoc]
  result := made.result
  finished := by
    rw [made.finished, Nat.add_assoc]

theorem interrupted?_of_lt {time : Nat} (now : Nat) (early : time < delay) :
    interrupted? (some (now + time)) now delay = some (now + time) := by
  rw [interrupted?, Option.bind_some, if_pos (.inl (Nat.add_lt_add_left early now)),
    Nat.max_eq_left (Nat.le_add_right now time)]

theorem interrupted?_of_gt {time : Nat} (now : Nat) (late : delay < time) :
    interrupted? (some (now + time)) now delay = none := by
  rw [interrupted?, Option.bind_some, if_neg (by omega)]

/-- A cancellation, after some time or not at all, that comes at no instant at which a wait ends:
there either of the two could be first. -/
def Apart (delays : List Nat) (cancelled : Option Nat) : Prop :=
  ∀ time ∈ cancelled, ∀ waits, 1 ≤ waits → waits ≤ delays.length → time ≠ timeUntil delays waits

theorem Apart.of_cons {time : Nat} (apart : Apart (delay :: delays) (some time))
    (later : delay < time) : Apart delays (some (time - delay)) := by
  intro left same waits some_ within equal
  obtain rfl := Option.some.inj same
  apply apart time rfl (waits + 1) (Nat.le_add_left 1 waits) (Nat.succ_le_succ within)
  rw [timeUntil_cons, ← equal]
  omega

/-- The attempts from some instant on, where the outcomes to come are `later`. -/
theorem made_retryFrom {later : Nat → Except ε α} (cancelled : Option Nat) (attempt start : Nat)
    (apart : Apart delays cancelled)
    (same : ∀ number, outcomes (earlier.length + number) = later number) :
    Made delays later earlier start
      (min (settling delays later) (waitsBefore delays cancelled))
      (duration delays (settling delays later) cancelled)
      (retryFrom (cancelled.map (start + ·)) (following outcomes) attempt delays start
        earlier) := by
  induction delays generalizing attempt start earlier later cancelled with
  | nil =>
    have tried : following outcomes start earlier = (later 0, earlier ++ [start]) :=
      congrArg (·, earlier ++ [start]) (same 0)
    rw [retryFrom_settled tried (.inl rfl), settling_nil, Nat.zero_min, duration_zero]
    exact made_once [] earlier later start 0 []
  | cons delay rest ih =>
    have tried : following outcomes start earlier = (later 0, earlier ++ [start]) :=
      congrArg (·, earlier ++ [start]) (same 0)
    cases passing : passes (later 0) with
    | false =>
      rw [retryFrom_settled tried (.inr passing), settling_cons, passing, if_neg (by decide),
        Nat.zero_min, duration_zero]
      exact made_once (delay :: rest) earlier later start 0 []
    | true =>
      obtain ⟨error, failed, transient⟩ := exists_error_of_passes passing
      rw [failed] at tried
      have next : ∀ number,
          outcomes ((earlier ++ [start]).length + number) = later (number + 1) := by
        intro number
        rw [List.length_append, List.length_singleton, Nat.add_assoc, Nat.add_comm 1, same]
      rw [settling_cons, passing, if_pos rfl]
      cases cancelled with
      | none =>
        rw [retryFrom_waited tried transient rfl, waitsBefore_cons_none, Nat.add_min_add_right,
          duration_cons_none delay (settling_le rest _)]
        exact (ih none (attempt + 1) (start + delay) nofun next).waited _
      | some time =>
        rcases Nat.lt_trichotomy time delay with early | equal | late
        · rw [Option.map_some,
            retryFrom_interrupted tried transient (interrupted?_of_lt start early), ← failed,
            duration, waitsBefore_cons_of_le rest (Nat.le_of_lt early), Nat.min_zero,
            if_neg (Nat.not_succ_le_zero _)]
          exact made_once (delay :: rest) earlier later start time _
        · exact absurd equal (apart time rfl 1 (Nat.le_refl 1) (Nat.succ_le_succ (Nat.zero_le _)))
        · have instant : start + time = start + delay + (time - delay) := by omega
          have moved :=
            ih (some (time - delay)) (attempt + 1) (start + delay) (apart.of_cons late) next
          rw [Option.map_some, retryFrom_waited tried transient (interrupted?_of_gt start late),
            waitsBefore_cons_of_lt rest late, Nat.add_min_add_right, duration_cons_of_lt _ _ late,
            instant]
          exact moved.waited _

/-- The attempts of a whole run, which is cancelled after some time or not at all. -/
theorem made_retry (backoff : Backoff) (outcomes : Nat → Except ε α) (cancelled : Option Nat)
    (start : Nat) (apart : Apart backoff.delays cancelled) :
    Made backoff.delays outcomes [] start
      (min (settling backoff.delays outcomes) (waitsBefore backoff.delays cancelled))
      (duration backoff.delays (settling backoff.delays outcomes) cancelled)
      (backoff.retry (cancelled.map (start + ·)) (following outcomes) start []) :=
  made_retryFrom cancelled 1 start apart fun number => congrArg outcomes (Nat.zero_add number)

/-- A run that is cancelled from the start makes one attempt and waits for nothing. -/
theorem made_of_cancelled (outcomes : Nat → Except ε α) (attempt : Nat) {instant : Nat}
    (already : instant ≤ start) :
    Made delays outcomes [] start 0 0
      (retryFrom (some instant) (following outcomes) attempt delays start []) := by
  have tried : following outcomes start [] = (outcomes 0, [start]) := rfl
  cases passing : passes (outcomes 0) with
  | false =>
    rw [retryFrom_settled tried (.inr passing)]
    exact made_once delays [] outcomes start 0 []
  | true =>
    cases delays with
    | nil =>
      rw [retryFrom_settled tried (.inl rfl)]
      exact made_once [] [] outcomes start 0 []
    | cons delay rest =>
      obtain ⟨error, failed, transient⟩ := exists_error_of_passes passing
      have ended : interrupted? (some instant) start delay = some start := by
        rw [interrupted?, Option.bind_some, if_pos (.inr already), Nat.max_eq_right already]
      rw [failed] at tried
      rw [retryFrom_interrupted tried transient ended, ← failed]
      exact made_once (delay :: rest) [] outcomes start 0 _

end Runs

/-- What a schedule makes of an operation that is repeated by it. -/
structure KeepsSchedule (backoff : Backoff) (outcomes : Nat → Except ε α) (start : Nat) : Prop where
  /-- The settling attempt is the first that no further one can change, or the last there may be. -/
  settles : settling backoff.delays outcomes < backoff.maxAttempts ∧
    (∀ earlier < settling backoff.delays outcomes, passes (outcomes earlier) = true) ∧
    (settling backoff.delays outcomes + 1 < backoff.maxAttempts →
      passes (outcomes (settling backoff.delays outcomes)) = false)
  undisturbed : Made backoff.delays outcomes [] start (settling backoff.delays outcomes)
    (timeUntil backoff.delays (settling backoff.delays outcomes))
    (backoff.retry none (following outcomes) start [])
  cancelled : ∀ time, Apart backoff.delays (some time) →
    Made backoff.delays outcomes [] start
      (min (settling backoff.delays outcomes) (waitsBefore backoff.delays (some time)))
      (if settling backoff.delays outcomes ≤ waitsBefore backoff.delays (some time)
        then timeUntil backoff.delays (settling backoff.delays outcomes) else time)
      (backoff.retry (some (start + time)) (following outcomes) start [])
  /-- A wait that takes no time could be over before it is found cancelled. -/
  already : ∀ instant ≤ start, (∀ delay ∈ backoff.delays, 0 < delay) →
    Made backoff.delays outcomes [] start 0 0
      (backoff.retry (some instant) (following outcomes) start [])

/-- Whatever the outcomes are, the attempts are those of the schedule, at its instants, and the last
of them decides. -/
theorem retry_keeps_schedule (backoff : Backoff) (outcomes : Nat → Except ε α) (start : Nat) :
    backoff.KeepsSchedule outcomes start where
  settles := by
    obtain ⟨within, all, last⟩ := (settling_eq_iff backoff.delays outcomes _).mp rfl
    exact ⟨Nat.lt_succ_of_le within, all, fun more => last (Nat.lt_of_succ_lt_succ more)⟩
  undisturbed := by
    have within := settling_le backoff.delays outcomes
    have made := backoff.made_retry outcomes none start nofun
    rw [duration_none within, waitsBefore, Nat.min_eq_left within] at made
    exact made
  cancelled := fun time apart => backoff.made_retry outcomes (some time) start apart
  already := fun _instant already _positive => made_of_cancelled outcomes 1 already

/-- Outcomes of which the third is the first that settles something. -/
def sampleOutcomes (number : Nat) : Except StorageError Nat :=
  if number < 2 then .error (.connection "lost") else .ok number

theorem retry_keeps_schedule_standard :
    (standard.retry none (following sampleOutcomes) 500 []).state = [500, 1500, 4500] ∧
      (standard.retry none (following sampleOutcomes) 500 []).result = .ok 2 ∧
      (standard.retry (some 2500) (following sampleOutcomes) 500 []).state = [500, 1500] ∧
      (standard.retry (some 2500) (following sampleOutcomes) 500 []).finished = 2500 ∧
      (standard.retry (some 500) (following sampleOutcomes) 500 []).state = [500] := by
  have keeps := standard.retry_keeps_schedule sampleOutcomes 500
  have apart : Apart standard.delays (some 2000) := by
    intro time same waits some_ within
    obtain rfl := Option.some.inj same
    have all : ∀ waits ≤ 3, 1 ≤ waits → 2000 ≠ timeUntil standard.delays waits := by decide
    exact all waits within some_
  have disturbed := keeps.cancelled 2000 apart
  have already := keeps.already 500 (Nat.le_refl 500) (by decide)
  exact ⟨keeps.undisturbed.attempts, keeps.undisturbed.result, disturbed.attempts,
    disturbed.finished, already.attempts⟩

end Telemetry.Backoff
