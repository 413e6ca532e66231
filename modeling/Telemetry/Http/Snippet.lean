import Telemetry.Bytes
/-!
Snippets of bodies for the log: the text of a body, cut between two characters when it is longer
than a limit.
-/

namespace Telemetry.Http.Snippet

/-- Steps back from a number of octets to the first place that is not inside a character. Only at
such a place a text can be cut. -/
def lastBoundary (text : String) : (place : Nat) → text.Pos
  | 0 => text.startPos
  | place + 1 =>
    if between : String.Pos.Raw.IsValid text ⟨place + 1⟩ then ⟨⟨place + 1⟩, between⟩
    else lastBoundary text place

def placeholder : String := "<non-utf8 body>"

def mark : String := "..."

def ofBody (limit : Nat) (body : Bytes) : String :=
  match Bytes.text? body with
  | none => placeholder
  | some text =>
    if limit < text.utf8ByteSize then (text.sliceTo (lastBoundary text limit)).copy ++ mark
    else text

/-- The longest snippet without its mark, in octets. -/
def limit : Nat := 200

end Telemetry.Http.Snippet
