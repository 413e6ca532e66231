import Telemetry.Server.Framing
import Telemetry.Text.Blank
/-!
The settings of an agent.
-/

namespace Telemetry

structure AgentConfig where
  address : String := "localhost:8080"
  /-- Seconds between polls. -/
  pollInterval : Nat := 2
  /-- Seconds between reports. -/
  reportInterval : Nat := 10
  /-- How many reports may be under way at once. -/
  rateLimit : Nat := 1
  secret : String := ""
  keyFile : Option String := none
  framing : Framing := .document
  isRestricted : Bool := false
deriving DecidableEq, Repr

namespace AgentConfig

def fault? (config : AgentConfig) : Option String :=
  if config.pollInterval = 0 then some "poll interval must be positive"
  else if config.reportInterval = 0 then some "report interval must be positive"
  else if config.rateLimit = 0 then some "rate limit must be positive"
  else none

def namesScheme : List Char → Bool
  | [] => false
  | letter :: rest => "://".toList.isPrefixOf (letter :: rest) || namesScheme rest

def withoutSlashes (text : String) : String :=
  String.ofList (text.toList.reverse.dropWhile (· == '/')).reverse

def endpoint (config : AgentConfig) : String :=
  let address := withoutSlashes (Text.trim config.address)
  if namesScheme address.toList then address else "http://" ++ address

end AgentConfig

end Telemetry
