import Telemetry.Crypto.Rsa
import Telemetry.Parcel.Basic
/-!
Encrypted bodies. A body is cut into chunks that leave room for the padding of a block, and the
encrypted blocks are put one after another; an empty body stays as it is.
-/

namespace Telemetry.Encryption

open Crypto

/-- The least number of octets that the padding of a block takes. -/
def overhead : Nat := 11

/-- The pieces of the given size, of which the last may be shorter. -/
def chunks (size : Nat) (octets : Bytes) : List Bytes :=
  if _stop : size = 0 ∨ octets = [] then []
  else octets.take size :: chunks size (octets.drop size)
termination_by octets.length
decreasing_by
  have positive : 0 < octets.length := List.length_pos_iff.mpr (fun empty => _stop (.inr empty))
  rw [List.length_drop]
  omega

/-- The blocks of chunks, one after another; the first of them has the given number. -/
def encryptChunks (filler : Rsa.Filler) (key : Rsa.PublicKey) : (number : Nat) → List Bytes → Bytes
  | _, [] => []
  | number, chunk :: rest =>
    Rsa.encryptBlock filler number key chunk ++ encryptChunks filler key (number + 1) rest

def encrypt (filler : Rsa.Filler) (key : Rsa.PublicKey) (plain : Bytes) : Except SealError Bytes :=
  if key.size ≤ overhead then .error (.smallModulus key.size)
  else .ok (encryptChunks filler key 0 (chunks (key.size - overhead) plain))

def decryptBlocks (key : Rsa.PrivateKey) : List Bytes → Except SealError Bytes
  | [] => .ok []
  | block :: rest =>
    match Rsa.decryptBlock? key block with
    | none => .error .badBlock
    | some plain => (decryptBlocks key rest).map (plain ++ ·)

def decrypt (key : Rsa.PrivateKey) (cipher : Bytes) : Except SealError Bytes :=
  if cipher.length % key.size = 0 then decryptBlocks key (chunks key.size cipher)
  else .error (.notWholeBlocks cipher.length key.size)

structure Keys where
  publicKey : Option Rsa.PublicKey
  privateKey : Option Rsa.PrivateKey
  filler : Rsa.Filler := .standard

def Keys.none : Keys := { publicKey := Option.none, privateKey := Option.none }

def Keys.sender (key : Rsa.PublicKey) (filler : Rsa.Filler := .standard) : Keys :=
  { publicKey := some key, privateKey := Option.none, filler }

def Keys.receiver (key : Rsa.PrivateKey) : Keys :=
  { publicKey := Option.none, privateKey := some key }

def close (keys : Keys) (parcel : Parcel) : Except SealError Parcel :=
  match keys.publicKey with
  | Option.none => .ok parcel
  | some key =>
    if parcel.body.isEmpty then .ok parcel
    else (encrypt keys.filler key parcel.body).map parcel.replaceBody

def disclose (keys : Keys) (parcel : Parcel) : Except SealError Parcel :=
  match keys.privateKey with
  | Option.none => .ok parcel
  | some key =>
    if parcel.body.isEmpty then .ok parcel
    else (decrypt key parcel.body).map parcel.replaceBody

/-! ### Keys from files -/

def readPublic (text : Bytes) : Except SealError Rsa.PublicKey :=
  match Rsa.readPublic? text with
  | some key => .ok key
  | Option.none => .error .badPublicKey

def readPrivate (text : Bytes) : Except SealError Rsa.PrivateKey :=
  match Rsa.readPrivate? text with
  | some key => .ok key
  | Option.none => .error .badPrivateKey

/-- The content of a key file, which has to be there and to be text. -/
def keyFile (path : String) (content : Option Bytes) : Except SealError Bytes :=
  match content.bind fun octets => (Bytes.text? octets).map fun _ => octets with
  | some octets => .ok octets
  | Option.none => .error (.unreadableKey path)

end Telemetry.Encryption
