import Telemetry.Http.Message
import Telemetry.Http.Snippet
import Telemetry.Text.Integer
/-!
The journal of requests and responses. Bodies are noted only when they are documents or texts, and
of remote calls only the headers are. A response that is noted with its body loses its trailers.
Every answered request carries the number of its trace.
-/

namespace Telemetry.Http.Journal

def traceHeader : String := "x-trace-id"

def contentType (headers : Headers) : String := (headers.text? HeaderName.contentType).getD ""

def isCall (headers : Headers) : Bool := (contentType headers).startsWith "application/grpc"

def isReadable (headers : Headers) : Bool :=
  let kind := contentType headers
  kind.startsWith "application/json" || kind.startsWith "text/"

def statedLength (headers : Headers) : Nat :=
  match headers.text? HeaderName.contentLength with
  | some text => (Integer.readNat (UInt64.size - 1) text).toOption.getD 0
  | none => 0

def requestEvent (request : Request) : Log.Event :=
  let call := isCall request.headers
  let readable := !call && isReadable request.headers
  let snippet := if readable then Snippet.ofBody Snippet.limit request.body else ""
  let size := if readable then request.body.length else statedLength request.headers
  let last := if snippet.isEmpty then ("rpc", toString call) else ("body", snippet)
  { level := .info
    message := "--> request"
    fields := [("method", request.method), ("path", request.target.text),
      ("size", Nat.repr size), last] }

def statusHeader : String := "grpc-status"

def callEvent (response : Response) : Log.Event :=
  { level := .info
    message := "<-- response"
    fields := [("status", Nat.repr response.status),
      ("grpc_status", (response.headers.text? statusHeader).getD "-")] }

def responseEvent (response : Response) : Log.Event :=
  let snippet :=
    if isReadable response.headers then Snippet.ofBody Snippet.limit response.body else ""
  let fields :=
    [("status", Nat.repr response.status), ("size", Nat.repr response.body.length)]
  if 500 ≤ response.status then ⟨.error, "<-- response", fields ++ [("body", snippet)]⟩
  else if 400 ≤ response.status then ⟨.warn, "<-- response", fields ++ [("body", snippet)]⟩
  else ⟨.info, "<-- response", fields⟩

def noted (call : Bool) (trace : String) (response : Response) : Response :=
  let kept := if call then response else { response with trailers := .empty }
  { kept with headers := kept.headers.insert traceHeader (Bytes.ofText trace) }

def around (trace : String) (inner : Handler σ) : Handler σ := fun request => do
  modify (·.log [requestEvent request])
  let response ← inner request
  let call := isCall request.headers
  modify (·.log [if call then callEvent response else responseEvent response])
  return noted call trace response

end Telemetry.Http.Journal
