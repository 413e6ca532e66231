import Telemetry.Crypto.Base64
/-!
Labelled octets as text: a line that begins with a label, lines of 64 letters of which only the
last may be shorter, and a line that ends with the same label. Text may come before the first
line, but after the last line there is nothing but the end of that line.
-/

namespace Telemetry.Crypto.Pem

def newline : UInt8 := 0x0A

def carriage : UInt8 := 0x0D

def ascii (text : String) : Bytes := text.toList.map Bytes.ascii

def beginMark : Bytes := ascii "-----BEGIN "

def endMark : Bytes := ascii "-----END "

def dashes : Bytes := ascii "-----"

def dropPrefix? (front octets : Bytes) : Option Bytes :=
  if front.isPrefixOf octets then some (octets.drop front.length) else none

def dropSuffix? (back octets : Bytes) : Option Bytes :=
  if back.isSuffixOf octets then some (octets.take (octets.length - back.length)) else none

/-- What follows the end of a line: a return, a line feed, or both in this order. -/
def dropLineEnd? : Bytes → Option Bytes
  | [] => none
  | first :: rest =>
    if first = newline then some rest
    else if first = carriage then
      match rest with
      | second :: after => if second = newline then some after else some rest
      | [] => some []
    else none

def dropLastLineEnd? (octets : Bytes) : Option Bytes :=
  match octets.reverse with
  | [] => none
  | last :: front =>
    if last = newline then
      match front with
      | before :: rest => if before = carriage then some rest.reverse else some front.reverse
      | [] => some []
    else if last = carriage then some front.reverse
    else none

/-- The octets from the first line on that begins with the mark; there is no zero before. -/
def dropPreamble? : Bytes → Option Bytes
  | [] => none
  | octet :: rest =>
    if octet = 0 then none
    else if octet = newline ∧ beginMark.isPrefixOf rest then some rest
    else dropPreamble? rest

/-- The letters in lines of 64, of which the last may be shorter and may have a line end. -/
def joinLines : (steps : Nat) → Bytes → Option Bytes
  | 0, _ => none
  | steps + 1, octets =>
    match octets.drop 64 with
    | [] => some ((dropLastLineEnd? octets).getD octets)
    | rest => do
      let after ← dropLineEnd? rest
      return octets.take 64 ++ (← joinLines steps after)

def decode? (label : String) (text : Bytes) : Option Bytes := do
  let start ← if beginMark.isPrefixOf text then some text else dropPreamble? text
  let body ← dropPrefix? (beginMark ++ ascii label ++ dashes) start
  let body ← dropLineEnd? body
  let body := (dropLastLineEnd? body).getD body
  let body ← dropSuffix? (endMark ++ ascii label ++ dashes) body
  let body ← dropLastLineEnd? body
  Base64.decode? (← joinLines (body.length + 1) body)

end Telemetry.Crypto.Pem
