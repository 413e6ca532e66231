import Telemetry.Parcel.Compression
import Telemetry.Parcel.Encryption
import Telemetry.Parcel.Signature
/-!
Pipelines: transforms that a parcel goes through, from the first to the last when it is wrapped
and from the last to the first when it is unwrapped. A transform that fails leaves the parcel as
it is and ends the run; what the transforms before it did stays done.
-/

namespace Telemetry

inductive Transform where
  | sign (secret : Bytes)
  | encrypt (keys : Encryption.Keys)
  | compress

namespace Transform

def name : Transform → String
  | .sign _ => "sign"
  | .encrypt _ => "encrypt"
  | .compress => "compress"

def wrap (parcel : Parcel) : Transform → Except SealError Parcel
  | .sign secret => .ok (Signature.sign secret parcel)
  | .encrypt keys => Encryption.close keys parcel
  | .compress => .ok (Compression.pack parcel)

def unwrap (parcel : Parcel) : Transform → Except SealError Parcel
  | .sign secret => Signature.check secret parcel
  | .encrypt keys => Encryption.disclose keys parcel
  | .compress => Compression.unpack parcel

/-- A description that gives away no key. -/
def description : Transform → String
  | .sign _ => "Sign \x7b .. \x7d"
  | .encrypt keys =>
    "Encrypt \x7b public: " ++ toString keys.publicKey.isSome ++ ", private: " ++
      toString keys.privateKey.isSome ++ " \x7d"
  | .compress => "Compress"

end Transform

structure Pipeline where
  transforms : List Transform

namespace Pipeline

def run (step : Parcel → Transform → Except SealError Parcel) :
    List Transform → Parcel → Option SealError × Parcel
  | [], parcel => (none, parcel)
  | transform :: rest, parcel =>
    match step parcel transform with
    | .ok next => run step rest next
    | .error error => (some error, parcel)

def wrap (pipeline : Pipeline) (parcel : Parcel) : Option SealError × Parcel :=
  run Transform.wrap pipeline.transforms parcel

def unwrap (pipeline : Pipeline) (parcel : Parcel) : Option SealError × Parcel :=
  run Transform.unwrap pipeline.transforms.reverse parcel

def names (pipeline : Pipeline) : List String := pipeline.transforms.map Transform.name

def description (pipeline : Pipeline) : String :=
  "[" ++ ", ".intercalate (pipeline.names.map Text.quoted) ++ "]"

/-- What a client does to its requests. -/
def sender (secret : Bytes) (publicKey : Option Crypto.Rsa.PublicKey)
    (filler : Crypto.Rsa.Filler := .standard) : Pipeline :=
  ⟨[.sign secret] ++ (publicKey.map fun key => .encrypt (.sender key filler)).toList ++
    [.compress]⟩

/-- What a server undoes on the requests it gets. -/
def receiver (secret : Bytes) (privateKey : Option Crypto.Rsa.PrivateKey) : Pipeline :=
  ⟨[.sign secret] ++ (privateKey.map fun key => .encrypt (.receiver key)).toList ++ [.compress]⟩

end Pipeline

end Telemetry
