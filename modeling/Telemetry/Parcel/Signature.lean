import Telemetry.Crypto.Sha256
import Telemetry.Parcel.Basic
import Telemetry.Text.Hex
/-!
Signatures: the keyed hash of a body in hexadecimal. A body is signed when there is a secret and
the body is not empty; a signature is checked when there is a secret and a signature.
-/

namespace Telemetry.Signature

def digest (secret body : Bytes) : Bytes := Text.Hex.encode (Crypto.hmac secret body)

/-- Whether a signature, in either case, is the whole hash of the body. -/
def verifies (secret body signature : Bytes) : Bool :=
  Text.Hex.decode? signature == some (Crypto.hmac secret body)

def sign (secret : Bytes) (parcel : Parcel) : Parcel :=
  if secret.isEmpty || parcel.body.isEmpty then parcel
  else
    { parcel with
      headers := parcel.headers.insert HeaderName.signature (digest secret parcel.body) }

/-- The signature that will be checked: the first one, if it is visible and not empty. -/
def stated? (headers : Headers) : Option Bytes :=
  ((headers.text? HeaderName.signature).map Bytes.ofText).filter fun text => !text.isEmpty

def check (secret : Bytes) (parcel : Parcel) : Except SealError Parcel :=
  if secret.isEmpty then .ok parcel
  else
    match stated? parcel.headers with
    | none => .ok parcel
    | some signature =>
      if verifies secret parcel.body signature then .ok parcel else .error .unsigned

end Telemetry.Signature
