import Telemetry.Text.Integer
/-!
Options of a command line. Every option takes one value and can also come from an environment
variable, over which the command line wins. What the values mean is left to their readers; here
they are only checked.
-/

namespace Telemetry.CommandLine

inductive ValueRule where
  | text
  | natural
  | truth
  | path
  | choice (words : List String)
deriving DecidableEq, Repr

structure OptionSpec where
  long : String
  short : Option Char
  fallback : String
  rule : ValueRule
deriving DecidableEq, Repr

inductive UsageError where
  | unknownArgument
  | invalidValue
  | unreadableValue
  | repeated
  | surplusValue
  | helpRequested
  | versionRequested
deriving DecidableEq, Repr

namespace UsageError

def label : UsageError → String
  | .unknownArgument => "UnknownArgument"
  | .invalidValue => "InvalidValue"
  | .unreadableValue => "ValueValidation"
  | .repeated => "ArgumentConflict"
  | .surplusValue => "TooManyValues"
  | .helpRequested => "DisplayHelp"
  | .versionRequested => "DisplayVersion"

end UsageError

def greatestNatural : Nat := UInt64.size - 1

def readNatural? (value : String) : Option Nat :=
  (Integer.readNat greatestNatural value).toOption

def readTruth? (value : String) : Option Bool :=
  if value = "true" then some true else if value = "false" then some false else none

namespace ValueRule

def fault? (rule : ValueRule) (value : String) : Option UsageError :=
  match rule with
  | .text => none
  | .natural => if (readNatural? value).isSome then none else some .unreadableValue
  | .truth => if (readTruth? value).isSome then none else some .invalidValue
  | .path => if value.isEmpty then some .invalidValue else none
  | .choice words => if words.contains value then none else some .invalidValue

end ValueRule

/-- The values of options by their long names. -/
abbrev Values := List (String × String)

namespace Values

def text? (values : Values) (long : String) : Option String := values.lookup long

def natural? (values : Values) (long : String) : Option Nat :=
  (values.lookup long).bind readNatural?

def truth? (values : Values) (long : String) : Option Bool := (values.lookup long).bind readTruth?

end Values

end Telemetry.CommandLine
