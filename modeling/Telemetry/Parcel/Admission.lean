import Telemetry.Net.Subnet
import Telemetry.Parcel.Basic
/-!
Admission by address. Without a trusted subnet everybody is admitted; with one, a caller has to
state an address that lies in it.
-/

namespace Telemetry

structure TrustedSubnet where
  subnet : Option Net.Subnet
deriving DecidableEq, Repr

namespace TrustedSubnet

/-- No text but blanks means that there is no trusted subnet. -/
def ofText (text : String) : Except SealError TrustedSubnet :=
  let trimmed := Text.trim text
  if trimmed = "" then .ok ⟨none⟩
  else
    match Net.Subnet.ofText? trimmed with
    | some subnet => .ok ⟨some subnet⟩
    | none => .error (.badSubnet trimmed)

def isEnabled (trusted : TrustedSubnet) : Bool := trusted.subnet.isSome

/-- The address that a caller states: the first one, if it is visible, without blanks around. -/
def stated (headers : Headers) : String :=
  Text.trim ((headers.text? HeaderName.realAddress).getD "")

def check (trusted : TrustedSubnet) (headers : Headers) : Except SealError Unit :=
  match trusted.subnet with
  | none => .ok ()
  | some subnet =>
    let source := stated headers
    match Net.Address.ofText? source with
    | some address => if subnet.contains address then .ok () else .error (.untrusted source)
    | none => .error (.untrusted source)

end TrustedSubnet

end Telemetry
