import Telemetry.Agent.Config
import Telemetry.Http.Endpoint
import Telemetry.Http.Status
import Telemetry.Parcel.Pipeline
import Telemetry.Retry
import Telemetry.Rpc.Frame
/-!
Delivery of batches to a server, in either framing. A batch is encoded, sealed and sent; what comes
back says whether it was taken, whether the same batch may be taken later, or never.
-/

namespace Telemetry

inductive DeliveryError where
  /-- The server will not take the batch, however often it is sent. -/
  | rejected (detail : String)
  | transient (detail : String)
  | encode (detail : String)
deriving DecidableEq, Repr

namespace DeliveryError

def message : DeliveryError → String
  | .rejected detail => "batch rejected: " ++ detail
  | .transient detail => "transient delivery failure: " ++ detail
  | .encode detail => "encode batch: " ++ detail

def isTransient : DeliveryError → Bool
  | .transient _ => true
  | .rejected _ | .encode _ => false

def label : DeliveryError → String
  | .rejected _ => "Rejected"
  | .transient _ => "Transient"
  | .encode _ => "Encode"

instance : Failure DeliveryError := ⟨isTransient, message⟩

end DeliveryError

abbrev Batch := List Metric

/-- A way to a server: it brings a request there and a response back, or fails to. -/
abbrev Link (σ : Type) := Http.Request → StateM σ (Option Http.Response)

namespace Link

def broken : Link σ := fun _ => return none

end Link

structure Transport where
  framing : Framing
  endpoint : String
  pipeline : Pipeline
  address : Option String

namespace Transport

def addressFields (transport : Transport) : List (String × Bytes) :=
  (transport.address.map fun address => (HeaderName.realAddress, Bytes.ofText address)).toList

def plainParcel (transport : Transport) (batch : Batch) : Parcel :=
  let envelopes := batch.map Envelope.ofMetric
  match transport.framing with
  | .document =>
    { headers := ⟨(HeaderName.contentType, Bytes.ofText Http.Response.documentType) ::
        transport.addressFields⟩
      body := Envelope.writeMany envelopes }
  | .call =>
    { headers := ⟨[("te", Bytes.ofText "trailers"),
        (HeaderName.contentType, Bytes.ofText Rpc.contentType)] ++ transport.addressFields⟩
      body := Rpc.Frame.write (Envelope.manyToWire envelopes) }

def sealBatch (transport : Transport) (batch : Batch) : Except SealError Parcel :=
  match transport.pipeline.wrap (transport.plainParcel batch) with
  | (none, parcel) => .ok parcel
  | (some error, _) => .error error

def url (transport : Transport) : String :=
  AgentConfig.withoutSlashes transport.endpoint ++ "/updates/"

def target (transport : Transport) : Http.Target :=
  match transport.framing with
  | .document =>
    let path := ((Http.Target.ofText? transport.url).map Http.Target.path).getD "/updates/"
    ⟨path, path⟩
  | .call => ⟨Rpc.Method.updateMetrics.path, Rpc.Method.updateMetrics.path⟩

/-- A failure to seal a batch; of a remote call nobody knows more than that it failed. -/
def sealFailure (transport : Transport) (error : SealError) : DeliveryError :=
  match transport.framing with
  | .document => .encode error.message
  | .call => .transient (Rpc.Code.unknown.name ++ ": " ++ error.message)

def linkFailure (transport : Transport) : DeliveryError :=
  match transport.framing with
  | .document => .transient ("error sending request for url (" ++ transport.url ++ ")")
  | .call => .transient (Rpc.Code.unavailable.name ++ ": tcp connect error")

def judgeDocument (response : Http.Response) : Except DeliveryError Unit :=
  if Http.Status.isSuccess response.status then .ok ()
  else
    let body := (Bytes.text? response.body).getD ""
    let detail := Http.Status.text response.status ++ ": " ++ Text.trim body
    if Http.Status.isServerError response.status then .error (.transient detail)
    else .error (.rejected detail)

def passes : Rpc.Code → Bool
  | .unavailable | .internal | .unknown | .cancelled | .deadlineExceeded | .resourceExhausted =>
    true
  | _ => false

def statusWithout (status : Nat) : Rpc.Status :=
  let code : Rpc.Code := match status with
    | 400 => .internal
    | 401 => .unauthenticated
    | 403 => .permissionDenied
    | 404 => .unimplemented
    | 429 | 502 | 503 | 504 => .unavailable
    | _ => .unknown
  ⟨code, "grpc-status header missing, mapped from HTTP status code " ++ Nat.repr status⟩

def judgeCall (response : Http.Response) : Except DeliveryError Unit :=
  let status := (Rpc.endedWith? response).getD (statusWithout response.status)
  if status.code = .ok then .ok ()
  else
    let detail := status.code.name ++ ": " ++ status.message
    if passes status.code then .error (.transient detail) else .error (.rejected detail)

def judge (transport : Transport) (response : Http.Response) : Except DeliveryError Unit :=
  match transport.framing with
  | .document => judgeDocument response
  | .call => judgeCall response

def send (transport : Transport) (link : Link σ) (batch : Batch) :
    StateM σ (Except DeliveryError Unit) := do
  match transport.sealBatch batch with
  | .error error => return .error (transport.sealFailure error)
  | .ok parcel =>
    match ← link ⟨"POST", transport.target, parcel.headers, parcel.body⟩ with
    | none => return .error transport.linkFailure
    | some response => return transport.judge response

structure Fault where
  path : String
  cause : SealError
deriving DecidableEq, Repr

def Fault.message (fault : Fault) : String := "load public key " ++ fault.path

def ofConfig (config : AgentConfig) (content : Option Bytes) (address : Option String) :
    Except Fault Transport :=
  let build (key : Option Crypto.Rsa.PublicKey) : Transport :=
    { framing := config.framing
      endpoint := config.endpoint
      pipeline := Pipeline.sender (Bytes.ofText config.secret) key
      address }
  match config.keyFile with
  | none => .ok (build none)
  | some path =>
    match (Encryption.keyFile path content).bind Encryption.readPublic with
    | .ok key => .ok (build (some key))
    | .error cause => .error ⟨path, cause⟩

end Transport

end Telemetry
