import Telemetry.Log
/-!
Repeating an operation that failed for a reason that may pass.

A schedule is a list of delays: there is one attempt at once, and one more after each delay while
the attempts fail in a way that may pass. Time is counted in milliseconds; an attempt takes none,
and only waiting moves the clock. A cancellation ends a wait, and the last error stands.
-/

namespace Telemetry

/-- Errors that an operation can fail with. -/
class Failure (ε : Type) where
  /-- Whether the same operation may succeed when it is tried again. -/
  isTransient : ε → Bool
  message : ε → String

/-- The delays before the second attempt, the third and so on, in milliseconds. -/
structure Backoff where
  delays : List Nat
deriving DecidableEq, Repr

namespace Backoff

def standard : Backoff := ⟨[1000, 3000, 5000]⟩

def never : Backoff := ⟨[]⟩

def maxAttempts (backoff : Backoff) : Nat := backoff.delays.length + 1

structure Outcome (ε α σ : Type) where
  result : Except ε α
  state : σ
  finished : Nat
  events : List Log.Event

/-- The event of a failed attempt after which there will be another one. -/
def retryEvent (attempt delay : Nat) (message : String) : Log.Event :=
  { level := .warn
    message := "transient failure, retrying"
    fields := [("attempt", Nat.repr attempt), ("delay_ms", Nat.repr delay), ("error", message)] }

/-- The instant at which a cancellation ends a wait, if it does. -/
def interrupted? (cancelled : Option Nat) (now delay : Nat) : Option Nat :=
  cancelled.bind fun instant =>
    if instant < now + delay ∨ instant ≤ now then some (max instant now) else none

/-- The attempts from the one of the given number on. The operation is told the instant. -/
def retryFrom {ε α σ : Type} [Failure ε] (cancelled : Option Nat)
    (operation : Nat → σ → Except ε α × σ) :
    (attempt : Nat) → (delays : List Nat) → (now : Nat) → σ → Outcome ε α σ
  | attempt, delays, now, state =>
    match operation now state with
    | (.ok value, after) => ⟨.ok value, after, now, []⟩
    | (.error error, after) =>
      match delays with
      | [] => ⟨.error error, after, now, []⟩
      | delay :: rest =>
        if Failure.isTransient error then
          let event := retryEvent attempt delay (Failure.message error)
          match interrupted? cancelled now delay with
          | some instant => ⟨.error error, after, instant, [event]⟩
          | none =>
            let outcome :=
              retryFrom cancelled operation (attempt + 1) rest (now + delay) after
            { outcome with events := event :: outcome.events }
        else ⟨.error error, after, now, []⟩

def retry {ε α σ : Type} [Failure ε] (backoff : Backoff) (cancelled : Option Nat)
    (operation : Nat → σ → Except ε α × σ) (now : Nat) (state : σ) : Outcome ε α σ :=
  retryFrom cancelled operation 1 backoff.delays now state

section Runs

variable {ε α σ : Type} [Failure ε] {cancelled : Option Nat}
  {operation : Nat → σ → Except ε α × σ}

/-- What an operation answers and keeps in every attempt, a run of attempts answers and keeps. -/
theorem retryFrom_keeps (answers : Except ε α → Prop) (holds : σ → Prop)
    (keeps : ∀ now state, holds state →
      answers (operation now state).1 ∧ holds (operation now state).2)
    (attempt : Nat) (delays : List Nat) (now : Nat) {state : σ} (held : holds state) :
    answers (retryFrom cancelled operation attempt delays now state).result ∧
      holds (retryFrom cancelled operation attempt delays now state).state := by
  induction delays generalizing attempt now state with
  | nil =>
    have kept := keeps now state held
    rw [retryFrom]
    cases done : operation now state with
    | mk result after =>
      rw [done] at kept
      cases result with
      | ok value => exact kept
      | error error => exact kept
  | cons delay rest ih =>
    have kept := keeps now state held
    rw [retryFrom]
    cases done : operation now state with
    | mk result after =>
      rw [done] at kept
      cases result with
      | ok value => exact kept
      | error error =>
        simp only
        split
        · cases interrupted? cancelled now delay with
          | some instant => exact kept
          | none => exact ih (attempt + 1) (now + delay) kept.2
        · exact kept

theorem state_retryFrom {holds : σ → Prop}
    (keeps : ∀ now state, holds state → holds (operation now state).2)
    (attempt : Nat) (delays : List Nat) (now : Nat) {state : σ} (held : holds state) :
    holds (retryFrom cancelled operation attempt delays now state).state :=
  (retryFrom_keeps (fun _result => True) holds
    (fun now state held => ⟨trivial, keeps now state held⟩) attempt delays now held).2

end Runs

end Backoff

end Telemetry
