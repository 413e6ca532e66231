import Telemetry.CommandLine.Parse
import Telemetry.Store.File
import Telemetry.Toml.Field
import Telemetry.Toml.Reader
/-!
Settings in layers: what is built in, over it a file, over it the environment, over it the command
line. One of the options names the file.
-/

namespace Telemetry

inductive SettingsError where
  | usage (error : CommandLine.UsageError)
  | unreadable (path : String)
  | malformed (path : String)
  | refused (reason : String)
deriving DecidableEq, Repr

namespace SettingsError

def message : SettingsError → String
  | .usage error => error.label
  | .unreadable path => "read config " ++ path
  | .malformed path => "parse config " ++ path
  | .refused reason => reason

/-- The exit code of a program that ends so: a line that asks for something is no failure. -/
def exitCode : SettingsError → UInt32
  | .usage .helpRequested | .usage .versionRequested => 0
  | .usage _ => 2
  | .unreadable _ | .malformed _ | .refused _ => 1

end SettingsError

structure SettingsForm (α : Type) where
  options : List CommandLine.OptionSpec
  fileOption : String
  initial : α
  /-- The settings that a document makes of the initial ones. -/
  ofTable? : Toml.Table → Option α
  override : CommandLine.Values → α → α
  fault? : α → Option String

namespace SettingsForm

def fileName? (form : SettingsForm α) (arguments : List String)
    (environment : List (String × String)) : Option String :=
  (CommandLine.parse form.options arguments environment).toOption.bind
    (·.text? form.fileOption)

def readFile (form : SettingsForm α) (files : String → FileNode) (path : String) :
    Except SettingsError α :=
  match files path with
  | .content octets =>
    match Bytes.text? octets with
    | none => .error (.unreadable path)
    | some document =>
      match (Toml.read? document).bind form.ofTable? with
      | some settings => .ok settings
      | none => .error (.malformed path)
  | .missing | .directory | .nowhere => .error (.unreadable path)

def load (form : SettingsForm α) (arguments : List String)
    (environment : List (String × String)) (files : String → FileNode) :
    Except SettingsError α := do
  let values ← (CommandLine.parse form.options arguments environment).mapError .usage
  let base ← match values.text? form.fileOption with
    | some path => form.readFile files path
    | none => pure form.initial
  let settings := form.override values base
  match form.fault? settings with
  | some reason => throw (.refused reason)
  | none => return settings

end SettingsForm

end Telemetry
