import Telemetry.Binary64.Basic
import Telemetry.Toml.DateTime
/-!
Values of TOML documents, and the rules by which tables are built. A table remembers where it came
from, because that decides whether it may still be extended: a table is defined by at most one
header, the keys of a dotted path may not enter a table that has a header of its own, and a table
that was written as a value is closed.
-/

namespace Telemetry.Toml

inductive Origin where
  /-- It has a header. -/
  | header
  /-- It was passed by a longer header. -/
  | implied
  /-- It was passed by a dotted key. -/
  | dotted
  /-- It was written as a value. -/
  | inline
deriving DecidableEq, Repr

inductive Value where
  | string (text : String)
  | integer (number : Int)
  | float (number : Binary64)
  | boolean (truth : Bool)
  | dateTime (instant : DateTime)
  | array (items : List Value)
  /-- The tables under a repeated header, the last of them first. -/
  | tables (last : List (String × Value)) (earlier : List (List (String × Value)))
  | table (origin : Origin) (entries : List (String × Value))

/-- The entries of a table in the order of their first mention. -/
abbrev Table := List (String × Value)

namespace Table

/-- Changes what is under a key, or sets it, if the change is allowed. -/
def change (table : Table) (key : String) (update : Option Value → Option Value) :
    Option Table :=
  match table with
  | [] => (update none).map fun value => [(key, value)]
  | (name, value) :: rest =>
    if name = key then (update (some value)).map fun next => (name, next) :: rest
    else (change rest key update).map ((name, value) :: ·)

/-- Changes the table at the end of a path. The tables on the path that are not there are made. -/
def within (isDotted : Bool) (act : Origin → Table → Option Table) :
    (path : List String) → Origin → Table → Option Table
  | [], origin, table => act origin table
  | key :: path, _, table =>
    table.change key fun
      | none =>
        let origin : Origin := if isDotted then .dotted else .implied
        (within isDotted act path origin []).map (.table origin)
      | some (.table origin inner) =>
        if origin = .inline ∨ (isDotted ∧ origin = .header) then none
        else (within isDotted act path origin inner).map (.table origin)
      | some (.tables last earlier) =>
        (within isDotted act path .header last).map fun next => .tables next earlier
      | some _ => none

/-- Sets a key that is not yet there; the keys before it are dotted. A dotted key may not end in a
table that something else has made, nor a plain one in a table that dotted keys have made. -/
def insert (path : List String) (key : String) (value : Value) :
    Origin → Table → Option Table :=
  within true (fun origin table =>
    if (origin == .dotted) == path.isEmpty then none
    else table.change key fun
      | none => some value
      | some _ => none) path

def openTable (path : List String) (key : String) (root : Table) : Option Table :=
  within false (fun _ table => table.change key fun
    | none => some (.table .header [])
    | some (.table .implied entries) => some (.table .header entries)
    | some _ => none) path .header root

def openMember (path : List String) (key : String) (root : Table) : Option Table :=
  within false (fun _ table => table.change key fun
    | none => some (.tables [] [])
    | some (.tables last earlier) => some (.tables [] (last :: earlier))
    | some _ => none) path .header root

end Table

end Telemetry.Toml
