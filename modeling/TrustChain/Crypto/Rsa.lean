import TrustChain.Certificate.Structure
import TrustChain.Crypto.Modular
import TrustChain.Crypto.Sha2

/-!
# RSA signatures

RSA signatures with the PKCS #1 v1.5 padding. The signature, as a number, is raised to the public
exponent; the result has to be, octet for octet, the padded digest that the hash function and the
size of the modulus determine.
-/

namespace TrustChain.Crypto.Rsa

open Der (Decoder encodeElement)

/-- Why the public key of a certificate is not an RSA key. -/
inductive KeyProblem where
  | parametersMissing
  | malformed
  deriving DecidableEq, Repr

def KeyProblem.text : KeyProblem → String
  | parametersMissing => "AlgorithmParametersMissing"
  | malformed => "KeyMalformed"

structure PublicKey where
  modulus : Nat
  exponent : Nat
  deriving DecidableEq, Repr

namespace PublicKey

/-- The number of bits of the longest supported modulus. -/
def maxModulusBits : Nat := 4096

/-- The largest supported exponent, 2³³ - 1. -/
def maxExponent : Nat := 0x1ffffffff

/-- The modulus is odd and not too long; the exponent is odd, above 1, below the modulus and not too
large. -/
def isSupported (key : PublicKey) : Bool :=
  key.modulus.log2 < maxModulusBits && key.modulus % 2 == 1 && key.exponent < key.modulus &&
    key.exponent % 2 == 1 && 2 ≤ key.exponent && key.exponent ≤ maxExponent

def decode : Decoder PublicKey :=
  .within .sequence do
    let modulus ← Decoder.value .integer Der.natural?
    let exponent ← Decoder.value .integer Der.natural?
    return ⟨modulus, exponent⟩

/-- The RSA key in a certificate. The algorithm has to have parameters, and these to be NULL. -/
def ofInfo (info : PublicKeyInfo) : Except KeyProblem PublicKey :=
  match info.algorithm.parameters with
  | none => .error .parametersMissing
  | some parameters =>
    if parameters ≠ ⟨.null, []⟩ then .error .malformed
    else
      match info.key.wholeOctets?.bind decode.complete with
      | none => .error .malformed
      | some key => if key.isSupported then .ok key else .error .malformed

def size (key : PublicKey) : Nat := (Nat.log2 key.modulus + 8) / 8

end PublicKey

/-- The DigestInfo of a digest: the hash function, with NULL parameters, and the digest. -/
def digestInfo (hash : HashFunction) (digest : Octets) : Octets :=
  encodeElement .sequence
    (encodeElement .sequence
        (encodeElement .objectIdentifier hash.identifier ++ encodeElement .null []) ++
      encodeElement .octetString digest)

/-- The padded digest of `size` octets: `00 01`, at least eight octets `ff`, `00`, and the
DigestInfo. There is none when the size leaves no room. -/
def paddedDigest? (size : Nat) (hash : HashFunction) (digest : Octets) : Option Octets :=
  let info := digestInfo hash digest
  if info.length + 11 ≤ size then
    some (0x00 :: 0x01 :: List.replicate (size - 3 - info.length) 0xff ++ 0x00 :: info)
  else none

/-- Whether a signature over a digest is good. It has to be as long as the modulus and below it. -/
def verify (key : PublicKey) (hash : HashFunction) (digest signature : Octets) : Bool :=
  let s := Octets.toNat signature
  signature.length == key.size && s < key.modulus &&
    paddedDigest? key.size hash digest ==
      some (Octets.ofNat key.size (powMod key.modulus s key.exponent))

end TrustChain.Crypto.Rsa
