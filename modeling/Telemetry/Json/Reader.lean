import Telemetry.Json.Token
/-!
Reading JSON documents. A machine with a stack of unfinished containers reads one token at a
time; nesting has no limit. `Json.read?` accepts one document with blanks around it.
-/

namespace Telemetry.Json

/-- A container that is being read, its parts in reverse. -/
inductive Frame where
  | array (items : List Json)
  | object (members : List (Option String × Json)) (key : Option String)

/-- What may come next, and what encloses it. -/
inductive Reader where
  | value (stack : List Frame)
  | firstItem (stack : List Frame)
  | firstKey (stack : List Frame)
  | key (members : List (Option String × Json)) (stack : List Frame)
  | colon (members : List (Option String × Json)) (key : Option String) (stack : List Frame)
  | complete (value : Json) (stack : List Frame)

namespace Reader

def startValue (stack : List Frame) : Token → Option Reader
  | .null => some (.complete .null stack)
  | .bool truth => some (.complete (.bool truth) stack)
  | .number numeral => some (.complete (.number numeral) stack)
  | .string text => some (.complete (.string text) stack)
  | .openArray => some (.firstItem stack)
  | .openObject => some (.firstKey stack)
  | .closeArray | .closeObject | .comma | .colon => none

def step (reader : Reader) (token : Token) : Option Reader :=
  match reader with
  | .value stack => startValue stack token
  | .firstItem stack =>
    match token with
    | .closeArray => some (.complete (.array []) stack)
    | other => startValue (.array [] :: stack) other
  | .firstKey stack =>
    match token with
    | .closeObject => some (.complete (.object []) stack)
    | .string text => some (.colon [] text stack)
    | _ => none
  | .key members stack =>
    match token with
    | .string text => some (.colon members text stack)
    | _ => none
  | .colon members name stack =>
    match token with
    | .colon => some (.value (.object members name :: stack))
    | _ => none
  | .complete last (.array items :: stack) =>
    match token with
    | .comma => some (.value (.array (last :: items) :: stack))
    | .closeArray => some (.complete (.array (last :: items).reverse) stack)
    | _ => none
  | .complete last (.object members name :: stack) =>
    match token with
    | .comma => some (.key ((name, last) :: members) stack)
    | .closeObject => some (.complete (.object ((name, last) :: members).reverse) stack)
    | _ => none
  | .complete _ [] => none

def finish? : Reader → Option Json
  | .complete last [] => some last
  | _ => none

end Reader

def parseFrom (reader : Reader) (tokens : List Token) : Option Reader :=
  tokens.foldlM Reader.step reader

def ofTokens? (tokens : List Token) : Option Json :=
  (parseFrom (.value []) tokens).bind Reader.finish?

def read? (document : Bytes) : Option Json := (tokens? document).bind ofTokens?

end Telemetry.Json
