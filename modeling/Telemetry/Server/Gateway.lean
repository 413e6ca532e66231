import Telemetry.Parcel.Admission
import Telemetry.Parcel.Pipeline
import Telemetry.Server.Config
/-!
The gateway of a server: who is admitted, how requests are opened and how responses are sealed.
-/

namespace Telemetry

inductive GatewayFault where
  | key (path : String) (cause : SealError)
  | subnet (cause : SealError)
deriving DecidableEq, Repr

namespace GatewayFault

def message : GatewayFault → String
  | .key path _ => "load private key " ++ path
  | .subnet _ => "parse trusted subnet"

def cause : GatewayFault → SealError
  | .key _ cause => cause
  | .subnet cause => cause

end GatewayFault

structure Gateway where
  inbound : Pipeline
  outbound : Pipeline
  /-- For responses to callers that take packed bodies. -/
  packedOutbound : Pipeline
  trusted : TrustedSubnet
  signs : Bool

namespace Gateway

def new (secret : Bytes) (key : Option Crypto.Rsa.PrivateKey) (trusted : TrustedSubnet) :
    Gateway where
  inbound := Pipeline.receiver secret key
  outbound := ⟨[.sign secret]⟩
  packedOutbound := ⟨[.sign secret, .compress]⟩
  trusted
  signs := !secret.isEmpty

def loadKey (config : ServerConfig) (content : Option Bytes) :
    Except GatewayFault (Option Crypto.Rsa.PrivateKey) :=
  match config.keyFile with
  | none => .ok none
  | some path =>
    match (Encryption.keyFile path content).bind Encryption.readPrivate with
    | .ok key => .ok (some key)
    | .error cause => .error (.key path cause)

def ofConfig (config : ServerConfig) (content : Option Bytes) : Except GatewayFault Gateway := do
  let key ← loadKey config content
  match TrustedSubnet.ofText config.trustedSubnet with
  | .ok trusted => return new (Bytes.ofText config.secret) key trusted
  | .error cause => throw (.subnet cause)

def encodingName (element : String) : String := Text.before ';' (Text.trim element)

def acceptsPacked (headers : Headers) : Bool :=
  (((headers.values HeaderName.acceptEncoding).filterMap Headers.visible?).flatMap
    (Text.split ',')).any fun element => encodingName element == Compression.encoding

/-- The pipeline for the response to a caller, unless it stays as it is. -/
def responsePipeline (gateway : Gateway) (packed : Bool) : Option Pipeline :=
  if packed then some gateway.packedOutbound
  else if gateway.signs then some gateway.outbound
  else none

end Gateway

end Telemetry
