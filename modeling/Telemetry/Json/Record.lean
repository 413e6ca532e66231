import Telemetry.Json.Reader
/-!
Reading records from JSON. A record is an object with known members, each at most once and in
any order beside unknown ones, or an array of the members' values in their declared order, from
which values at the end may be missing.
-/

namespace Telemetry.Json

/-- The value of the only member of a name: `none` if the name is repeated, `some none` if it
does not occur. -/
def member? (name : String) (members : List (Option String × Json)) : Option (Option Json) :=
  match members.filter (fun member => member.1 == some name) with
  | [] => some none
  | [member] => some (some member.2)
  | _ :: _ :: _ => none

/-- The values of a record under the given names, in their order. Every name in an object must
be a text that can be read, also one that is not asked for. -/
def record? (names : List String) : Json → Option (List (Option Json))
  | .object members =>
    if members.all (fun member => member.1.isSome) then
      names.mapM fun name => member? name members
    else none
  | .array items =>
    if items.length ≤ names.length then
      some (items.map some ++ List.replicate (names.length - items.length) none)
    else none
  | _ => none

def text? : Json → Option String
  | .string text => text
  | _ => none

def binary64? : Json → Option Binary64
  | .number numeral => numeral.toBinary64?
  | _ => none

def int64? : Json → Option Int64
  | .number numeral => numeral.toInt64?
  | _ => none

def required (read : Json → Option α) : Option Json → Option α
  | some value => read value
  | none => none

/-- A member that may be missing or `null`. -/
def optional (read : Json → Option α) : Option Json → Option (Option α)
  | none => some none
  | some .null => some none
  | some value => (read value).map some

end Telemetry.Json
