import Telemetry.Crypto.Der
import Telemetry.Crypto.Pem
/-!
Keys of the asymmetric cipher RSA, their files, and the encryption of one block.

A block is filled up in front of the message with octets that are not zero; which octets these
are is the caller's choice (`Filler`), so that encryption is a function, and may differ from block
to block. `Rsa.unpad?_pad` says that the padding is taken off again.
-/

namespace Telemetry.Crypto.Rsa

structure PublicKey where
  modulus : Nat
  exponent : Nat
deriving DecidableEq, Repr

structure PrivateKey where
  publicKey : PublicKey
  exponent : Nat
deriving DecidableEq, Repr

def PublicKey.size (key : PublicKey) : Nat := Bytes.width key.modulus

def PrivateKey.size (key : PrivateKey) : Nat := key.publicKey.size

def bitCount (value : Nat) : Nat := if value = 0 then 0 else value.log2 + 1

def PublicKey.isSound (key : PublicKey) : Bool :=
  bitCount key.modulus ≤ 4096 && key.modulus % 2 == 1 && key.exponent % 2 == 1 &&
    2 ≤ key.exponent && key.exponent < 0x200000000 && key.exponent < key.modulus

/-- Whether the private exponent undoes the public one modulo both primes, of which the modulus
is the product. -/
def PrivateKey.isSound (key : PrivateKey) (first second : Nat) : Bool :=
  let undone (prime : Nat) : Bool :=
    2 ≤ prime && key.publicKey.exponent * key.exponent % (prime - 1) == 1
  key.publicKey.isSound && first * second == key.publicKey.modulus &&
    undone first && undone second

/-! ### Key files -/

def plainPublic? (octets : Bytes) : Option PublicKey := do
  match ← Der.naturals? 2 (← Der.only? Der.sequenceTag octets) with
  | ([modulus, exponent], []) =>
    let key : PublicKey := ⟨modulus, exponent⟩
    if key.isSound then return key else none
  | _ => none

/-- The plain form of a private key: a version, the two exponents and the modulus, the primes,
and three numbers that follow from them. -/
def plainPrivate? (octets : Bytes) : Option PrivateKey := do
  match ← Der.naturals? 9 (← Der.only? Der.sequenceTag octets) with
  | ([0, modulus, publicExponent, exponent, first, second, _, _, _], []) =>
    let key : PrivateKey := ⟨⟨modulus, publicExponent⟩, exponent⟩
    if key.isSound first second then return key else none
  | _ => none

/-- The object identifier 1.2.840.113549.1.1.1. -/
def algorithmIdentifier : Bytes := [0x2a, 0x86, 0x48, 0x86, 0xf7, 0x0d, 0x01, 0x01, 0x01]

/-- Skips the name of the algorithm, which has to be this one, without parameters. -/
def skipAlgorithm? (octets : Bytes) : Option Bytes := do
  let (content, rest) ← Der.tagged? Der.sequenceTag octets
  let (identifier, parameters) ← Der.tagged? Der.identifierTag content
  let none ← Der.only? Der.nullTag parameters
  if identifier = algorithmIdentifier ∧ none = [] then return rest else failure

/-- The form of a public key that names the algorithm. -/
def namedPublic? (octets : Bytes) : Option PublicKey := do
  let rest ← skipAlgorithm? (← Der.only? Der.sequenceTag octets)
  match ← Der.only? Der.bitStringTag rest with
  | unused :: inner => if unused = 0 then plainPublic? inner else none
  | [] => none

/-- Values of a context after the known ones: none of them may be the public key, which belongs
to another version. -/
def onlyAttributes : (steps : Nat) → Bytes → Bool
  | _, [] => true
  | 0, _ :: _ => false
  | steps + 1, octets =>
    match Der.value? octets with
    | some (tag, _, rest) =>
      tag.toNat / 64 == 2 && tag.toNat % 32 != 1 && onlyAttributes steps rest
    | none => false

/-- The form of a private key that names the algorithm. -/
def namedPrivate? (octets : Bytes) : Option PrivateKey := do
  let content ← Der.only? Der.sequenceTag octets
  let (version, rest) ← Der.natural? content
  let rest ← skipAlgorithm? rest
  let (inner, rest) ← Der.tagged? Der.octetStringTag rest
  if version = 0 ∧ onlyAttributes rest.length rest then plainPrivate? inner else none

/-- A public key from its file, in the form that names the algorithm or the plain one. -/
def readPublic? (text : Bytes) : Option PublicKey :=
  ((Pem.decode? "PUBLIC KEY" text).bind namedPublic?) <|>
    ((Pem.decode? "RSA PUBLIC KEY" text).bind plainPublic?)

def readPrivate? (text : Bytes) : Option PrivateKey :=
  ((Pem.decode? "PRIVATE KEY" text).bind namedPrivate?) <|>
    ((Pem.decode? "RSA PRIVATE KEY" text).bind plainPrivate?)

/-! ### Blocks -/

def powerMod (base exponent modulus : Nat) : Nat :=
  if done : exponent = 0 then 1 % modulus
  else
    let half := powerMod (base * base % modulus) (exponent / 2) modulus
    if exponent % 2 = 1 then half * base % modulus else half
termination_by exponent
decreasing_by exact Nat.div_lt_self (Nat.pos_of_ne_zero done) (by decide)

/-- The octets that fill up blocks, by the number of the block. -/
structure Filler where
  octet : (number place : Nat) → UInt8
  octet_ne_zero : ∀ number place, octet number place ≠ 0

def Filler.constant (value : UInt8) (nonzero : value ≠ 0) : Filler :=
  ⟨fun _ _ => value, fun _ _ => nonzero⟩

def Filler.standard : Filler := .constant 0xA5 (by decide)

def Filler.take (filler : Filler) (number count : Nat) : Bytes :=
  (List.range count).map (filler.octet number)

/-- The block of a number, of `size` octets with a message of at most `size - 11` at its end. -/
def pad (filler : Filler) (number size : Nat) (message : Bytes) : Bytes :=
  0 :: 2 :: filler.take number (size - 3 - message.length) ++ 0 :: message

/-- The message at the end of a block, in front of which there are eight octets of filling at
least. -/
def unpad? : Bytes → Option Bytes
  | 0 :: 2 :: rest =>
    let filling := rest.takeWhile (· != 0)
    if filling.length < 8 then none
    else
      match rest.drop filling.length with
      | _ :: message => some message
      | [] => none
  | _ => none

theorem unpad?_pad (filler : Filler) (number size : Nat) (message : Bytes)
    (room : message.length + 11 ≤ size) :
    unpad? (pad filler number size message) = some message := by
  have whole : ∀ octet ∈ filler.take number (size - 3 - message.length),
      (octet != 0) = true := by
    intro octet member
    obtain ⟨place, _, rfl⟩ := List.mem_map.mp member
    simpa using filler.octet_ne_zero number place
  have front :
      (filler.take number (size - 3 - message.length) ++ 0 :: message).takeWhile (· != 0) =
        filler.take number (size - 3 - message.length) := by
    rw [List.takeWhile_append_of_pos whole]
    simp
  have length :
      (filler.take number (size - 3 - message.length)).length = size - 3 - message.length := by
    simp [Filler.take]
  simp only [pad, unpad?, List.cons_append, front]
  rw [if_neg (by omega), List.drop_left]

def encryptBlock (filler : Filler) (number : Nat) (key : PublicKey) (message : Bytes) : Bytes :=
  Bytes.ofNatBE key.size <|
    powerMod (Bytes.toNatBE (pad filler number key.size message)) key.exponent key.modulus

def decryptBlock? (key : PrivateKey) (block : Bytes) : Option Bytes :=
  let value := Bytes.toNatBE block
  if key.publicKey.modulus ≤ value then none
  else
    unpad? <| Bytes.ofNatBE key.size <|
      powerMod value key.exponent key.publicKey.modulus

end Telemetry.Crypto.Rsa
