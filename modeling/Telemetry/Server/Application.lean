import Telemetry.Http.Endpoint
import Telemetry.Http.Journal
import Telemetry.Rpc.Frame
import Telemetry.Server.Framing
import Telemetry.Server.Gateway
/-!
The applications of a server: one for documents and one for remote calls, over one service. A
request first has to be admitted, then its parcel is opened, then it is noted in the journal, and
only then it is answered. Responses to documents are sealed on their way out.
-/

namespace Telemetry

namespace Gateway

def admitting (gateway : Gateway) (framing : Framing) (inner : Http.Handler σ) : Http.Handler σ :=
  fun request =>
    match gateway.trusted.check request.headers with
    | .ok _ => inner request
    | .error error => return framing.reject error

/-- The longest request before it is opened, in octets. -/
def longestRequest : Nat := 16 * 1024 * 1024

def sealResponse (gateway : Gateway) (packed : Bool) (response : Http.Response) : Http.Response :=
  match gateway.responsePipeline packed with
  | none => response
  | some pipeline =>
    match pipeline.wrap ⟨response.headers, response.body⟩ with
    | (none, parcel) => { response with headers := parcel.headers, body := parcel.body }
    | (some error, _) => Http.Response.plain 500 error.message

/-- Opens the parcels of requests, and seals responses to documents. -/
def opening (gateway : Gateway) (framing : Framing) (inner : Http.Handler σ) : Http.Handler σ :=
  fun request =>
    if longestRequest < request.body.length then
      return framing.rejection 400 .invalidArgument "failed to read body: length limit exceeded"
    else
      match gateway.inbound.unwrap ⟨request.headers, request.body⟩ with
      | (some error, _) => return framing.reject error
      | (none, parcel) => do
        let response ← inner { request with headers := parcel.headers, body := parcel.body }
        match framing with
        | .call => return response
        | .document => return gateway.sealResponse (acceptsPacked request.headers) response

def around (gateway : Gateway) (framing : Framing) (trace : String) (inner : Http.Handler σ) :
    Http.Handler σ :=
  gateway.admitting framing (gateway.opening framing (Http.Journal.around trace inner))

end Gateway

namespace Rpc

def unknownMethod : Status := ⟨.unimplemented, ""⟩

def encodingHeader : String := "grpc-encoding"

/-- Messages that are packed by themselves are not taken. -/
def unsupportedEncoding? (headers : Headers) : Option Status :=
  match headers.get? encodingHeader with
  | none => none
  | some value =>
    if value = Bytes.ofText "identity" then none
    else
      some ⟨.unimplemented,
        "Content is compressed with \x60" ++ (Bytes.text? value).getD "?" ++
          "\x60 which isn't supported"⟩

def handle (service : Service σ) : Http.Handler σ := fun request =>
  match Method.ofPath? request.target.path with
  | none => return ending unknownMethod
  | some method =>
    match unsupportedEncoding? request.headers with
    | some status =>
      let response := ending status
      return { response with
        headers := response.headers.insert "grpc-accept-encoding" (Bytes.ofText "identity") }
    | none =>
      match Frame.call method request.body with
      | .error status => return ending status
      | .ok call => do
        match ← (perform service call).run with
        | .ok reply => return replying (Frame.write reply.toWire)
        | .error status => return ending status

end Rpc

structure Application (σ : Type) where
  gateway : Gateway
  service : Service σ

namespace Application

def document (application : Application σ) (trace : String) : Http.Handler σ := fun request =>
  let around := application.gateway.around .document trace
  match Http.Route.ofPath? request.target.path with
  | none => around Http.Endpoint.missing request
  | some route => do
    let response ← around (Http.Endpoint.handle application.service route) request
    return Http.Endpoint.finish route request.method response

def call (application : Application σ) (trace : String) : Http.Handler σ :=
  application.gateway.around .call trace (Rpc.handle application.service)

def answer (application : Application σ) (framing : Framing) (trace : String) : Http.Handler σ :=
  match framing with
  | .document => application.document trace
  | .call => application.call trace

end Application

end Telemetry
