import Telemetry.Http.Percent
import Telemetry.Text.Blank
/-!
Routes: the paths that the service is offered under, and which methods each of them takes.
-/

namespace Telemetry.Http

inductive Route where
  | index
  | ping
  | update
  | updates
  | updateWords (kind name value : String)
  | query
  | queryWords (kind name : String)
deriving DecidableEq, Repr

namespace Route

/-- The route of a path, with the pieces of it that are words, not yet decoded. Only the last
word cannot be empty. -/
def ofPath? (path : String) : Option Route :=
  match Text.split '/' path with
  | ["", ""] => some .index
  | ["", "ping"] => some .ping
  | ["", "update", ""] => some .update
  | ["", "updates", ""] => some .updates
  | ["", "update", kind, name, value] =>
    if value.isEmpty then none else some (.updateWords kind name value)
  | ["", "value", ""] => some .query
  | ["", "value", kind, name] => if name.isEmpty then none else some (.queryWords kind name)
  | _ => none

def isRead : Route → Bool
  | .index | .ping | .queryWords .. => true
  | .update | .updates | .updateWords .. | .query => false

def allows (route : Route) (method : String) : Bool :=
  if route.isRead then method == "GET" || method == "HEAD" else method == "POST"

def allowed (route : Route) : String := if route.isRead then "GET,HEAD" else "POST"

/-- The pieces of a route as texts, under their names; the name of the first that is no text is
the error. -/
def decodeWord (name piece : String) : Except String String :=
  match Percent.text? piece with
  | some text => .ok text
  | none => .error name

def decode : Route → Except String Route
  | .updateWords kind name value => do
    return .updateWords (← decodeWord "kind" kind) (← decodeWord "name" name)
      (← decodeWord "value" value)
  | .queryWords kind name => do
    return .queryWords (← decodeWord "kind" kind) (← decodeWord "name" name)
  | other => .ok other

end Route

end Telemetry.Http
