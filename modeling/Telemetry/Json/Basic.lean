import Telemetry.Json.Numeral
/-!
JSON documents as trees.

A text in a document may be ill-formed in a way that only matters once somebody wants to know
what it says: octets that are not UTF-8, or half of a surrogate pair. Such a text is kept as
`none`, so that a reader can step over it and refuses only to use it.
-/

namespace Telemetry

inductive Json where
  | null
  | bool (value : Bool)
  | number (numeral : Json.Numeral)
  | string (text : Option String)
  | array (items : List Json)
  | object (members : List (Option String × Json))

namespace Json

def ofText (text : String) : Json := .string (some text)

def ofInt64 (value : Int64) : Json := .number (.ofInt value.toInt)

/-- A number that is not finite has no numeral and is written as `null`. -/
def ofBinary64 (number : Binary64) : Json :=
  if number.isFinite then .number (.ofBinary64 number) else .null

def ofMembers (members : List (String × Json)) : Json :=
  .object (members.map fun (name, value) => (some name, value))

end Json

end Telemetry
