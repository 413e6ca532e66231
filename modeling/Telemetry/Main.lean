import Telemetry.Agent.Settings
import Telemetry.Server.Settings
/-!
The command line: `server` or `agent` and the options of either. It shows the settings that they
would run with, or says why there are none.
-/

namespace Telemetry.CommandLine

def readEnvironment (options : List OptionSpec) : IO (List (String × String)) :=
  options.filterMapM fun option => do
    return (← IO.getEnv option.fallback).map fun value => (option.fallback, value)

def readNode (path : String) : IO FileNode := do
  try
    let content ← IO.FS.readBinFile path
    return .content content.data.toList
  catch _ => return .missing

def showSettings (form : SettingsForm α) (listing : α → List (String × String))
    (arguments : List String) : IO UInt32 := do
  let environment ← readEnvironment form.options
  let node ← match form.fileName? arguments environment with
    | some path => readNode path
    | none => pure FileNode.missing
  match form.load arguments environment fun _ => node with
  | .ok settings =>
    for (name, value) in listing settings do
      IO.println (name ++ " = " ++ value)
    return 0
  | .error error =>
    IO.eprintln error.message
    return error.exitCode

end Telemetry.CommandLine

open Telemetry in
def main (arguments : List String) : IO UInt32 := do
  match arguments with
  | "server" :: rest => CommandLine.showSettings ServerConfig.form ServerConfig.listing rest
  | "agent" :: rest => CommandLine.showSettings AgentConfig.form AgentConfig.listing rest
  | _ =>
    IO.eprintln "usage: telemetry (server | agent) [options]"
    return 2
