import Telemetry.Store.Backend
import Telemetry.Timeline
/-!
The snapshotter of a server: a clock that saves the store at regular instants. A save that fails
for a reason that may pass is repeated by a schedule; one that fails for good is given up until the
next instant. Around it, the store goes on changing.
-/

namespace Telemetry

structure Snapshotter (σ : Type) where
  /-- Milliseconds between two saves. -/
  period : Nat
  backoff : Backoff
  save : StoreOperation σ Unit

namespace Snapshotter

/-- How late a save may be, in milliseconds, without moving those after it. -/
def tolerance : Nat := 5

/-- A save at an instant, after the changes up to it. -/
def attempt (snapshotter : Snapshotter σ) : StoreOperation (Timeline σ × σ) Unit :=
  fun now (timeline, state) =>
    let (later, current) := timeline.advance now state
    let (answer, saved) := snapshotter.save now current
    (answer, (later, saved))

/-- When the save after that of the instant `due` is due, which was begun at `now`. -/
def nextDue (snapshotter : Snapshotter σ) (due now : Nat) : Nat :=
  if due + tolerance < now then now + snapshotter.period else due + snapshotter.period

/-- The saves that begin before the instant `stop`; each begins at least a moment after the one
before it. `free` is when the save before has ended. -/
def runFrom (snapshotter : Snapshotter σ) (stop : Nat) :
    (steps : Nat) → (due free : Nat) → Timeline σ × σ → Timeline σ × σ
  | 0, _, _, state => state
  | steps + 1, due, free, state =>
    let now := max due free
    if stop ≤ now then state
    else
      let outcome := snapshotter.backoff.retry (some stop) snapshotter.attempt now state
      runFrom snapshotter stop steps (snapshotter.nextDue due now) outcome.finished outcome.state

/-- A run from the instant zero that is cancelled at `stop`, with all that happens around it. -/
def run (snapshotter : Snapshotter σ) (stop : Nat) (timeline : Timeline σ) (state : σ) : σ :=
  let (later, last) := snapshotter.runFrom stop stop snapshotter.period 0 (timeline, state)
  (later.foldl (fun current change => change.2 current) last)

end Snapshotter

end Telemetry
