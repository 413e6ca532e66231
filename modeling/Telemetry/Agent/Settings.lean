import Telemetry.Agent.Config
import Telemetry.CommandLine.Settings
/-!
Where the settings of an agent come from.
-/

namespace Telemetry.AgentConfig

def options : List CommandLine.OptionSpec :=
  [⟨"config", some 'c', "CONFIG", .path⟩,
    ⟨"address", some 'a', "ADDRESS", .text⟩,
    ⟨"poll-interval", some 'p', "POLL_INTERVAL", .natural⟩,
    ⟨"report-interval", some 'r', "REPORT_INTERVAL", .natural⟩,
    ⟨"rate-limit", some 'l', "RATE_LIMIT", .natural⟩,
    ⟨"key", some 'k', "KEY", .text⟩,
    ⟨"crypto-key", none, "CRYPTO_KEY", .path⟩,
    ⟨"transport", some 't', "TRANSPORT", .choice Framing.words⟩,
    ⟨"restricted", none, "RESTRICTED", .truth⟩]

def ofTable? (table : Toml.Table) : Option AgentConfig := do
  let initial : AgentConfig := {}
  let framing (value : Toml.Value) : Option Framing := value.word?.bind Framing.ofWord?
  return {
    address := ← table.field? "address" Toml.Value.text? initial.address
    pollInterval := ← table.field? "poll_interval" Toml.Value.natural? initial.pollInterval
    reportInterval := ← table.field? "report_interval" Toml.Value.natural? initial.reportInterval
    rateLimit := ← table.field? "rate_limit" Toml.Value.natural? initial.rateLimit
    secret := ← table.field? "key" Toml.Value.text? initial.secret
    keyFile := ← table.field? "crypto_key" (fun value => value.text?.map some) initial.keyFile
    framing := ← table.field? "transport" framing initial.framing
    isRestricted := ← table.field? "restricted" Toml.Value.truth? initial.isRestricted }

/-- Lays values of options over settings; an address of nothing but blanks and an empty secret
count as none. -/
def override (values : CommandLine.Values) (config : AgentConfig) : AgentConfig :=
  { address := ((values.text? "address").filter (!Text.isBlankText ·)).getD config.address
    pollInterval := (values.natural? "poll-interval").getD config.pollInterval
    reportInterval := (values.natural? "report-interval").getD config.reportInterval
    rateLimit := (values.natural? "rate-limit").getD config.rateLimit
    secret := ((values.text? "key").filter (!·.isEmpty)).getD config.secret
    keyFile := (values.text? "crypto-key").or config.keyFile
    framing := ((values.text? "transport").bind Framing.ofWord?).getD config.framing
    isRestricted := (values.truth? "restricted").getD config.isRestricted }

/-- The settings by the names of their options, without the secret. -/
def listing (config : AgentConfig) : List (String × String) :=
  [("address", config.address), ("poll-interval", Nat.repr config.pollInterval),
    ("report-interval", Nat.repr config.reportInterval),
    ("rate-limit", Nat.repr config.rateLimit),
    ("crypto-key", config.keyFile.getD ""), ("transport", config.framing.word),
    ("restricted", if config.isRestricted then "true" else "false")]

def form : SettingsForm AgentConfig where
  options := options
  fileOption := "config"
  initial := {}
  ofTable? := ofTable?
  override := override
  fault? := fault?

end Telemetry.AgentConfig
