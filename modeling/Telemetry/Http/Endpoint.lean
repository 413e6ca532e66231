import Telemetry.Http.Message
import Telemetry.Http.Route
import Telemetry.Metric.Document
/-!
What the service answers under each route. The body of a request is read only where it is a
document, and then may have a limited length.
-/

namespace Telemetry.Http.Endpoint

/-- The longest document, in octets. -/
def longestDocument : Nat := 2 * 1024 * 1024

def tooLong : Response :=
  Response.plain 413 "Failed to buffer the request body: length limit exceeded"

def unreadableWord (name : String) : Response :=
  Response.plain 400 ("Invalid URL: Invalid UTF-8 in \x60" ++ name ++ "\x60")

def malformed : ServiceError := .badRequest "invalid JSON: malformed document"

def respond (work : Serving σ Response) : StateM (Session σ) Response := do
  match ← work.run with
  | .ok response => return response
  | .error error => return Response.ofServiceError error

def withDocument (read? : Bytes → Option α) (request : Request) (work : α → Serving σ Response) :
    StateM (Session σ) Response :=
  if longestDocument < request.body.length then return tooLong
  else
    respond <|
      match read? request.body with
      | some document => work document
      | none => throw malformed

def envelopeResponse (envelope : Envelope) : Response :=
  Response.ofBytes 200 Response.documentType envelope.write

/-- The answer of a route whose words have been decoded, to a method that it takes. -/
def answer (service : Service σ) (request : Request) : Route → StateM (Session σ) Response
  | .index => respond do
    return Response.ofBytes 200 Response.pageType (Bytes.ofText (← service.index))
  | .ping => respond do
    service.ping
    return Response.bare 200
  | .update => withDocument Envelope.read? request fun envelope => do
    return envelopeResponse (← service.updateOne envelope)
  | .updates => withDocument Envelope.readMany? request fun envelopes => do
    service.updateBatch envelopes
    return Response.bare 200
  | .updateWords kind name value => respond do
    service.updateWords kind name value
    return Response.bare 200
  | .query => withDocument Query.read? request fun wanted => do
    return envelopeResponse (Envelope.ofMetric (← service.getOne wanted))
  | .queryWords kind name => respond do
    let metric ← service.getOne ⟨name, kind⟩
    return Response.plain 200 metric.sample.text

def handle (service : Service σ) (route : Route) : Handler σ := fun request =>
  if route.allows request.method then
    match route.decode with
    | .ok decoded => answer service request decoded
    | .error name => return unreadableWord name
  else return Response.bare 405

def missing : Handler σ := fun _ => return Response.bare 404

/-- What the router adds to an answer of a route: the methods it takes when it was asked for
another, and the length of the body; the answer to `HEAD` then loses its body. -/
def finish (route : Route) (method : String) (response : Response) : Response :=
  let allowing :=
    if route.allows method || response.headers.contains "allow" then response.headers
    else response.headers.insert "allow" (Bytes.ofText route.allowed)
  let headers :=
    if allowing.contains HeaderName.contentLength then allowing
    else
      allowing.insert HeaderName.contentLength (Bytes.ofText (Nat.repr response.body.length))
  { response with headers, body := if method == "HEAD" then [] else response.body }

end Telemetry.Http.Endpoint
