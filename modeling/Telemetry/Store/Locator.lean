import Telemetry.Store.Table
import Telemetry.Text.Blank
/-!
Names of databases. A name leads to a database in a file, in memory or on another machine; no
other machine is ever reached.
-/

namespace Telemetry.Database

/-- Whether the name asks for the database to be made when it is not there. -/
def makesNew (name : String) : Bool :=
  ((Text.split '?' name).drop 1).any fun options =>
    (Text.split '&' options).any fun option => option == "mode=rwc" || option == "mode=memory"

/-- The database that a name leads to, where none has been made before. -/
def ofName? (name : String) : Option Database :=
  if name.startsWith "sqlite:" then
    if name.startsWith "sqlite::memory:" || makesNew name then some blank else none
  else none

end Telemetry.Database
