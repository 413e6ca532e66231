import Telemetry.Parcel.Headers
import Telemetry.Text.Quoted
/-!
Parcels: a body with the header fields that tell how to read it. Requests and responses of every
framing are sealed and opened in this shape.
-/

namespace Telemetry

structure Parcel where
  headers : Headers
  body : Bytes
deriving DecidableEq, Repr, Inhabited

namespace HeaderName

def contentLength : String := "content-length"

def contentType : String := "content-type"

def contentEncoding : String := "content-encoding"

def acceptEncoding : String := "accept-encoding"

/-- Carries the keyed hash of the plain body. -/
def signature : String := "hashsha256"

/-- Carries the address of the caller. -/
def realAddress : String := "x-real-ip"

end HeaderName

namespace Parcel

/-- Replaces the body and keeps the stated length in step with it. -/
def replaceBody (parcel : Parcel) (body : Bytes) : Parcel :=
  { headers :=
      parcel.headers.insert HeaderName.contentLength (Bytes.ofText (Nat.repr body.length))
    body }

end Parcel

/-- Why a parcel could not be sealed or opened, or a key could not be used. -/
inductive SealError where
  /-- The signature does not match the body. -/
  | unsigned
  | notWholeBlocks (length size : Nat)
  | badBlock
  | notGzip
  | smallModulus (size : Nat)
  | badPublicKey
  | badPrivateKey
  | unreadableKey (path : String)
  | badSubnet (text : String)
  | untrusted (source : String)
deriving DecidableEq, Repr

namespace SealError

def message : SealError → String
  | .unsigned => "request signature does not match body"
  | .notWholeBlocks length size =>
    "decrypt failed: ciphertext of " ++ Nat.repr length ++ " bytes is not a multiple of " ++
      Nat.repr size
  | .badBlock => "decrypt failed: decryption error"
  | .notGzip => "gzip decode failed: corrupt gzip stream"
  | .smallModulus size =>
    "key error: modulus of " ++ Nat.repr size ++ " bytes is too small"
  | .badPublicKey => "key error: parse public key: malformed key"
  | .badPrivateKey => "key error: parse private key: malformed key"
  | .unreadableKey path => "key error: read " ++ path ++ ": the file cannot be read"
  | .badSubnet text =>
    "key error: invalid trusted subnet " ++ Text.quoted text ++ ": invalid IP address syntax"
  | .untrusted source =>
    "source address " ++ Text.quoted source ++ " is not in the trusted subnet"

def label : SealError → String
  | .unsigned => "UnsignedRequest"
  | .notWholeBlocks .. | .badBlock => "Decrypt"
  | .notGzip => "Decompress"
  | .smallModulus _ | .badPublicKey | .badPrivateKey | .unreadableKey _ | .badSubnet _ => "Key"
  | .untrusted _ => "UntrustedSubnet"

end SealError

end Telemetry
