import Telemetry.Rpc.Method
/-!
Frames: a message is sent behind a mark, which says whether it is packed, and its length in four
octets. A request carries one message; further whole messages are read and forgotten.
-/

namespace Telemetry.Rpc.Frame

def write (message : Bytes) : Bytes := 0 :: (Bytes.ofNatBE 4 message.length ++ message)

/-- The longest message, in octets. -/
def longest : Nat := 4 * 1024 * 1024

def missingMessage : Status := ⟨.internal, "Missing request message."⟩

def unexpectedEnd : Status := ⟨.internal, "Unexpected EOF decoding stream."⟩

def badMark : Status := ⟨.internal, "protocol error: received message with a bad mark"⟩

def tooLong : Status := ⟨.outOfRange, "Error, decoded message length too large: over the limit"⟩

def malformed : Status := ⟨.internal, "failed to decode Protobuf message: malformed message"⟩

/-- The next message of a stream with what follows it, or nothing at its end. A header that nothing
follows is an end as well. -/
def next? (stream : Bytes) : Except Status (Option (Bytes × Bytes)) :=
  match stream with
  | [] => .ok none
  | mark :: size =>
    let header := size.take 4
    if header.length < 4 then .error unexpectedEnd
    else if mark ≠ 0 then .error badMark
    else
      let length := Bytes.toNatBE header
      let rest := size.drop 4
      if longest < length then .error tooLong
      else if (rest.take length).length = length then
        .ok (some (rest.take length, rest.drop length))
      else if rest.isEmpty then .ok none
      else .error unexpectedEnd

/-- Reads the messages of a stream to its end. Every message takes at least five octets. -/
def drain (method : Method) : (steps : Nat) → Bytes → Except Status Unit
  | 0, _ => .ok ()
  | steps + 1, stream => do
    match ← next? stream with
    | none => return ()
    | some (message, rest) =>
      if (method.call? message).isNone then throw malformed
      drain method steps rest

def call (method : Method) (stream : Bytes) : Except Status Call := do
  match ← next? stream with
  | none => throw missingMessage
  | some (message, rest) =>
    match method.call? message with
    | none => throw malformed
    | some call =>
      drain method rest.length rest
      return call

end Telemetry.Rpc.Frame
