import Telemetry.Text.Blank
/-!
The settings of a server.
-/

namespace Telemetry

structure ServerConfig where
  address : String := "localhost:8080"
  rpcAddress : String := "localhost:3200"
  /-- Seconds between snapshots; zero means that each write is followed by one. -/
  storeInterval : Nat := 300
  snapshotFile : String := "/tmp/metrics-db.json"
  restore : Bool := true
  /-- Names the database; nothing but blanks selects the store in memory. -/
  database : String := ""
  secret : String := ""
  keyFile : Option String := none
  trustedSubnet : String := ""
deriving DecidableEq, Repr

namespace ServerConfig

def usesDatabase (config : ServerConfig) : Bool := !Text.isBlankText config.database

def snapshotPath? (config : ServerConfig) : Option String :=
  if config.snapshotFile.isEmpty then none else some config.snapshotFile

/-- The seconds between snapshots, unless each write is followed by one. -/
def storePeriod? (config : ServerConfig) : Option Nat :=
  if config.storeInterval = 0 then none else some config.storeInterval

/-- Whether the file is kept in step with the store. -/
def keepsFile (config : ServerConfig) : Bool :=
  !config.usesDatabase && config.storePeriod?.isNone && config.snapshotPath?.isSome

end ServerConfig

end Telemetry
