import Telemetry.Toml.Value
/-!
Reading settings from a table: a key that is missing leaves a setting as it is, one that holds
something of the wrong kind is an error, and all other keys are ignored.
-/

namespace Telemetry.Toml

namespace Value

def text? : Value → Option String
  | .string text => some text
  | _ => none

def natural? : Value → Option Nat
  | .integer number => if 0 ≤ number then some number.toNat else none
  | _ => none

def truth? : Value → Option Bool
  | .boolean truth => some truth
  | _ => none

/-- Whether a value holds nothing, as what stands beside a bare word has to. -/
def isEmpty : Value → Bool
  | .array [] => true
  | .table _ [] => true
  | _ => false

/-- A word for one of several choices: as a text, or as the only key of a table. -/
def word? : Value → Option String
  | .string text => some text
  | .table _ [(key, value)] => if value.isEmpty then some key else none
  | _ => none

end Value

/-- What a table says about a setting that is `fallback` otherwise. -/
def Table.field? (table : Table) (key : String) (read : Value → Option α) (fallback : α) :
    Option α :=
  match table.lookup key with
  | some value => read value
  | none => some fallback

end Telemetry.Toml
