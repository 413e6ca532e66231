import Telemetry.Gzip.Basic
import Telemetry.Parcel.Basic
/-!
Compressed bodies. Documents and pages are packed, also empty ones; a body is unpacked when its
encoding says so, in any letter case.
-/

namespace Telemetry.Compression

def compressibleTypes : List String := ["application/json", "text/html"]

/-- Whether bodies of a content type are packed; parameters of the type do not matter. -/
def isCompressible (contentType : Option String) : Bool :=
  match contentType with
  | some text => compressibleTypes.contains (Text.trim (Text.before ';' text))
  | none => false

def encoding : String := "gzip"

def pack (parcel : Parcel) : Parcel :=
  if isCompressible (parcel.headers.text? HeaderName.contentType) then
    let packed := parcel.replaceBody (Gzip.gzip parcel.body)
    { packed with
      headers := packed.headers.insert HeaderName.contentEncoding (Bytes.ofText encoding) }
  else parcel

def isPacked (headers : Headers) : Bool :=
  match headers.text? HeaderName.contentEncoding with
  | some text => String.ofList (text.toList.map Char.toLower) == encoding
  | none => false

def gunzip (octets : Bytes) : Except SealError Bytes :=
  match Gzip.gunzip? octets with
  | some plain => .ok plain
  | none => .error .notGzip

def unpack (parcel : Parcel) : Except SealError Parcel :=
  if isPacked parcel.headers then do
    let plain ← gunzip parcel.body
    let unpacked := parcel.replaceBody plain
    return { unpacked with headers := unpacked.headers.remove HeaderName.contentEncoding }
  else .ok parcel

end Telemetry.Compression
