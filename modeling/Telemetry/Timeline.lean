/-!
Changes of a state that happen at given instants.
-/

namespace Telemetry

/-- Changes that happen at instants, the earliest first. -/
abbrev Timeline (σ : Type) := List (Nat × (σ → σ))

namespace Timeline

/-- Makes the changes that are due; those of the same instant are made. -/
def advance (now : Nat) : Timeline σ → σ → Timeline σ × σ
  | [], state => ([], state)
  | (instant, change) :: rest, state =>
    if instant ≤ now then advance now rest (change state) else ((instant, change) :: rest, state)

end Timeline

end Telemetry
