import Telemetry.CommandLine.Basic
/-!
Reading a command line. An option is written with its long name after two hyphens or its letter
after one; its value follows in the same argument or is the next one, which may not begin with a
hyphen then. An option whose value is still to come is settled when the next one begins or the line
ends.
-/

namespace Telemetry.CommandLine

structure Draft where
  values : Values
  /-- The last option, if its value is in the arguments after it, with that value. -/
  pending : Option (OptionSpec × Option String)

namespace Draft

def assign (draft : Draft) (option : OptionSpec) (value : String) : Except UsageError Draft :=
  if (draft.values.lookup option.long).isSome then .error .repeated
  else
    match option.rule.fault? value with
    | some error => .error error
    | none => .ok { draft with values := (option.long, value) :: draft.values }

def settle (draft : Draft) : Except UsageError Draft :=
  match draft.pending with
  | none => .ok draft
  | some (_, none) => .error .invalidValue
  | some (option, some value) => ({ draft with pending := none }).assign option value

def begin (draft : Draft) (option : OptionSpec) (value : Option String) :
    Except UsageError Draft := do
  let settled ← draft.settle
  match value with
  | some value => settled.assign option value
  | none => return { settled with pending := some (option, none) }

def interrupt (draft : Draft) (request : UsageError) : Except UsageError Draft := do
  let _ ← draft.settle
  throw request

/-- An argument that begins no option: the value that is still to come, or nothing that is
known. -/
def argument (draft : Draft) (value : String) : Except UsageError Draft :=
  match draft.pending with
  | some (option, none) => .ok { draft with pending := some (option, some value) }
  | _ => .error .unknownArgument

/-- The text before an equals sign, and the text after it if there is one. -/
def splitValue (text : List Char) : String × Option String :=
  let name := String.ofList (text.takeWhile (· != '='))
  match text.dropWhile (· != '=') with
  | _ :: value => (name, some (String.ofList value))
  | [] => (name, none)

def long (options : List OptionSpec) (draft : Draft) (text : List Char) :
    Except UsageError Draft :=
  let (name, value) := splitValue text
  let flag (request : UsageError) : Except UsageError Draft :=
    if value.isSome then .error .surplusValue else draft.interrupt request
  match options.find? (·.long == name) with
  | some option => draft.begin option value
  | none =>
    if name = "help" then flag .helpRequested
    else if name = "version" then flag .versionRequested
    else .error .unknownArgument

/-- The value that stands in the same argument as the letter of an option. -/
def attached? : List Char → Option String
  | [] => none
  | '=' :: value => some (String.ofList value)
  | value => some (String.ofList value)

def short (options : List OptionSpec) (draft : Draft) (letter : Char) (rest : List Char) :
    Except UsageError Draft :=
  match options.find? (·.short == some letter) with
  | some option => draft.begin option (attached? rest)
  | none =>
    if letter = 'h' then draft.interrupt .helpRequested
    else if letter = 'V' then draft.interrupt .versionRequested
    else .error .unknownArgument

/-- Reads the arguments. Two hyphens alone end the options, and nothing may follow them. -/
def read (options : List OptionSpec) : Draft → List String → Except UsageError Draft
  | draft, [] => draft.settle
  | draft, argument :: rest =>
    match argument.toList with
    | ['-', '-'] => if rest.isEmpty then draft.settle else .error .unknownArgument
    | '-' :: '-' :: text => do read options (← draft.long options text) rest
    | '-' :: letter :: text => do read options (← draft.short options letter text) rest
    | _ => do read options (← draft.argument argument) rest

/-- Takes the values of the options that are not set from the environment. -/
def complete (environment : List (String × String)) :
    List OptionSpec → Draft → Except UsageError Draft
  | [], draft => .ok draft
  | option :: rest, draft =>
    match draft.values.lookup option.long, environment.lookup option.fallback with
    | none, some value => do complete environment rest (← draft.assign option value)
    | _, _ => complete environment rest draft

end Draft

def parse (options : List OptionSpec) (arguments : List String)
    (environment : List (String × String)) : Except UsageError Values := do
  let draft ← Draft.read options ⟨[], none⟩ arguments
  return (← draft.complete environment options).values

end Telemetry.CommandLine
