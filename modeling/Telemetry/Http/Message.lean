import Telemetry.Http.Target
import Telemetry.Parcel.Basic
import Telemetry.Service.Basic
/-!
Requests and responses, and handlers that answer requests over the session of a server.
-/

namespace Telemetry.Http

structure Request where
  method : String
  target : Target
  headers : Headers
  body : Bytes
deriving DecidableEq, Repr, Inhabited

namespace Request

def ofParts? (method target : String) (headers : Headers) (body : Bytes) : Option Request :=
  match Target.ofText? target with
  | some parsed => if Headers.isName method then some ⟨method, parsed, headers, body⟩ else none
  | none => none

end Request

structure Response where
  status : Nat
  headers : Headers
  body : Bytes
  trailers : Headers := .empty
deriving DecidableEq, Repr, Inhabited

abbrev Handler (σ : Type) := Request → StateM (Session σ) Response

namespace Response

def bare (status : Nat) : Response := ⟨status, .empty, [], .empty⟩

def ofBytes (status : Nat) (contentType : String) (body : Bytes) : Response :=
  ⟨status, ⟨[(HeaderName.contentType, Bytes.ofText contentType)]⟩, body, .empty⟩

def plainType : String := "text/plain; charset=utf-8"

def pageType : String := "text/html; charset=utf-8"

def documentType : String := "application/json"

def plain (status : Nat) (text : String) : Response :=
  ofBytes status plainType (Bytes.ofText text)

def ofServiceError (error : ServiceError) : Response := plain error.status error.message

end Response

end Telemetry.Http
