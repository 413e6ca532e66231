import Telemetry.Http.Message
import Telemetry.Http.Percent
import Telemetry.Rpc.Status
/-!
The two framings that a server speaks, and how each of them tells a caller that it was turned away.
A remote call that fails is answered by headers alone.
-/

namespace Telemetry

inductive Framing where
  | document
  | call
deriving DecidableEq, Repr, Inhabited

namespace Framing

def word : Framing → String
  | .document => "http"
  | .call => "grpc"

def words : List String := [word .document, word .call]

def ofWord? (word : String) : Option Framing :=
  if word = "http" then some .document
  else if word = "grpc" then some .call
  else none

end Framing

namespace Rpc

def contentType : String := "application/grpc"

def statusHeader : String := "grpc-status"

def messageHeader : String := "grpc-message"

def statusFields (status : Status) : List (String × Bytes) :=
  [(statusHeader, Bytes.ofText (Nat.repr status.code.number))] ++
    if status.message.isEmpty then []
    else [(messageHeader, Http.Percent.encode (Bytes.ofText status.message))]

def ending (status : Status) : Http.Response :=
  ⟨200, ⟨(HeaderName.contentType, Bytes.ofText contentType) :: statusFields status⟩, [], .empty⟩

def replying (message : Bytes) : Http.Response :=
  ⟨200, ⟨[(HeaderName.contentType, Bytes.ofText contentType)]⟩, message,
    ⟨statusFields ⟨.ok, ""⟩⟩⟩

/-- The status that headers or trailers state. -/
def statedStatus? (headers : Headers) : Option Status :=
  (headers.text? statusHeader).map fun number =>
    { code := Code.ofText number
      message := ((headers.text? messageHeader).bind Http.Percent.text?).getD "" }

/-- The status that a call ended with: what its headers say, or else its trailers. -/
def endedWith? (response : Http.Response) : Option Status :=
  (statedStatus? response.headers).or (statedStatus? response.trailers)

end Rpc

namespace Framing

def rejection (framing : Framing) (status : Nat) (code : Rpc.Code) (message : String) :
    Http.Response :=
  match framing with
  | .document => Http.Response.plain status message
  | .call => Rpc.ending ⟨code, message⟩

/-- The rejection of a parcel that cannot be opened or of a caller who is not trusted. -/
def reject (framing : Framing) (error : SealError) : Http.Response :=
  match error with
  | .untrusted _ => framing.rejection 403 .unauthenticated error.message
  | .unsigned | .notWholeBlocks .. | .badBlock | .notGzip =>
    framing.rejection 400 .invalidArgument error.message
  | _ => framing.rejection 500 .internal error.message

end Framing

end Telemetry
