import Telemetry.CommandLine.Settings
import Telemetry.Server.Config
/-!
Where the settings of a server come from.
-/

namespace Telemetry.ServerConfig

def options : List CommandLine.OptionSpec :=
  [⟨"config", some 'c', "CONFIG", .path⟩,
    ⟨"address", some 'a', "ADDRESS", .text⟩,
    ⟨"grpc-address", some 'g', "GRPC_ADDRESS", .text⟩,
    ⟨"store-interval", some 'i', "STORE_INTERVAL", .natural⟩,
    ⟨"file-storage-path", some 'f', "FILE_STORAGE_PATH", .path⟩,
    ⟨"restore", some 'r', "RESTORE", .truth⟩,
    ⟨"database-dsn", some 'd', "DATABASE_DSN", .text⟩,
    ⟨"key", some 'k', "KEY", .text⟩,
    ⟨"crypto-key", none, "CRYPTO_KEY", .path⟩,
    ⟨"trusted-subnet", some 't', "TRUSTED_SUBNET", .text⟩]

def ofTable? (table : Toml.Table) : Option ServerConfig := do
  let initial : ServerConfig := {}
  return {
    address := ← table.field? "address" Toml.Value.text? initial.address
    rpcAddress := ← table.field? "grpc_address" Toml.Value.text? initial.rpcAddress
    storeInterval := ← table.field? "store_interval" Toml.Value.natural? initial.storeInterval
    snapshotFile := ← table.field? "file_storage_path" Toml.Value.text? initial.snapshotFile
    restore := ← table.field? "restore" Toml.Value.truth? initial.restore
    database := ← table.field? "database_dsn" Toml.Value.text? initial.database
    secret := ← table.field? "key" Toml.Value.text? initial.secret
    keyFile := ← table.field? "crypto_key" (fun value => value.text?.map some) initial.keyFile
    trustedSubnet := ← table.field? "trusted_subnet" Toml.Value.text? initial.trustedSubnet }

/-- Lays values of options over settings; a text of nothing but blanks counts as none. -/
def override (values : CommandLine.Values) (config : ServerConfig) : ServerConfig :=
  let words (long fallback : String) : String :=
    ((values.text? long).filter (!Text.isBlankText ·)).getD fallback
  { address := words "address" config.address
    rpcAddress := words "grpc-address" config.rpcAddress
    storeInterval := (values.natural? "store-interval").getD config.storeInterval
    snapshotFile := (values.text? "file-storage-path").getD config.snapshotFile
    restore := (values.truth? "restore").getD config.restore
    database := words "database-dsn" config.database
    secret := words "key" config.secret
    keyFile := (values.text? "crypto-key").or config.keyFile
    trustedSubnet := words "trusted-subnet" config.trustedSubnet }

/-- The settings by the names of their options, without the secret. -/
def listing (config : ServerConfig) : List (String × String) :=
  [("address", config.address), ("grpc-address", config.rpcAddress),
    ("store-interval", Nat.repr config.storeInterval),
    ("file-storage-path", config.snapshotFile),
    ("restore", if config.restore then "true" else "false"),
    ("database-dsn", config.database),
    ("crypto-key", config.keyFile.getD ""), ("trusted-subnet", config.trustedSubnet)]

def form : SettingsForm ServerConfig where
  options := options
  fileOption := "config"
  initial := {}
  ofTable? := ofTable?
  override := override
  fault? := fun _ => none

end Telemetry.ServerConfig
