import Telemetry.Net.Address
import Telemetry.Text.Integer
/-!
Endpoints: a host and a port with a colon between them. Every machine can listen on its own
addresses only: the unspecified ones, those of the loopback, and the name for it.
-/

namespace Telemetry.Net

structure Endpoint where
  host : String
  port : Nat
deriving DecidableEq, Repr

namespace Endpoint

/-- Splits a text at its last colon. -/
def ofText? (text : String) : Option Endpoint :=
  let reversed := text.toList.reverse
  let port := String.ofList (reversed.takeWhile (· != ':')).reverse
  match reversed.dropWhile (· != ':') with
  | [] => none
  | _ :: host =>
    match Integer.readNat 65535 port with
    | .ok number => some ⟨String.ofList host.reverse, number⟩
    | .error _ => none

/-- The address that a host is written as, if it is; the colon form stands in brackets. -/
def address? (endpoint : Endpoint) : Option Address :=
  match endpoint.host.toList with
  | '[' :: rest =>
    match rest.reverse with
    | ']' :: inner =>
      match Address.ofText? (String.ofList inner.reverse) with
      | some (.v6 bits) => some (.v6 bits)
      | _ => none
    | _ => none
  | _ =>
    match Address.ofText? endpoint.host with
    | some (.v4 bits) => some (.v4 bits)
    | _ => none

def isOwn : Address → Bool
  | .v4 bits => bits == 0 || bits >>> 24 == 127
  | .v6 bits => bits == 0 || bits == 1

def canListen (text : String) : Bool :=
  match ofText? text with
  | none => false
  | some endpoint =>
    endpoint.host == "localhost" || (endpoint.address?.map isOwn).getD false

end Endpoint

end Telemetry.Net
