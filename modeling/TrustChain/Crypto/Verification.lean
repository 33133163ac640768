import TrustChain.Crypto.Ecdsa
import TrustChain.Crypto.Rsa
import TrustChain.Error
import TrustChain.Journal

/-!
# Signature verification

A signature algorithm identifier names a family of keys and a hash function. Verification has three
outcomes: the signature is valid; it is not, which includes a signature that does not decode and a
key of another family; or it cannot be evaluated, because the algorithm or the curve is not
supported or because the key is of the right family and cannot be read, or not even be written.
Which of the outcomes can be an error depends on the algorithm and on the key alone.

Each stage of verification keeps a list of its own of the algorithms it knows: two that choose the
family, one for the digest of the message and one for the padding of RSA signatures. An algorithm
that is missing from the list of a later stage would be an error there.
-/

namespace TrustChain

inductive SignatureStatus where
  | valid
  | invalid
  deriving DecidableEq, Repr

namespace SignatureStatus

def isValid : SignatureStatus → Bool
  | valid => true
  | invalid => false

def ofBool (good : Bool) : SignatureStatus := if good then valid else invalid

end SignatureStatus

/-- A message, a signature over it, and what the signature was made with. -/
structure SignatureQuery where
  message : Octets
  signature : Octets
  algorithm : AlgorithmIdentifier
  key : PublicKeyInfo

namespace Crypto

inductive KeyFamily where
  | rsa
  | ecdsa
  deriving DecidableEq, Repr

structure SignatureScheme where
  family : KeyFamily
  hash : HashFunction
  deriving DecidableEq, Repr

namespace SignatureScheme

/-- What each of the supported algorithms names. -/
def table : List (Oid × SignatureScheme) := [
  (Oid.sha224WithRsa, ⟨.rsa, .sha224⟩),
  (Oid.sha256WithRsa, ⟨.rsa, .sha256⟩),
  (Oid.sha384WithRsa, ⟨.rsa, .sha384⟩),
  (Oid.sha512WithRsa, ⟨.rsa, .sha512⟩),
  (Oid.ecdsaWithSha224, ⟨.ecdsa, .sha224⟩),
  (Oid.ecdsaWithSha256, ⟨.ecdsa, .sha256⟩),
  (Oid.ecdsaWithSha384, ⟨.ecdsa, .sha384⟩),
  (Oid.ecdsaWithSha512, ⟨.ecdsa, .sha512⟩)]

def ofOid? (algorithm : Oid) : Option SignatureScheme := table.lookup algorithm

end SignatureScheme

/-- The curve that the parameters of a key name; the name may be of a curve that is not supported.
-/
def namedCurve? (algorithm : AlgorithmIdentifier) : Option Oid :=
  match algorithm.parameters with
  | some ⟨.objectIdentifier, content⟩ => Oid.ofContent? content
  | _ => none

/-- The signature algorithms for keys of a family. -/
def KeyFamily.algorithms : KeyFamily → List Oid
  | rsa => [Oid.sha256WithRsa, Oid.sha384WithRsa, Oid.sha224WithRsa, Oid.sha512WithRsa]
  | ecdsa => [Oid.ecdsaWithSha256, Oid.ecdsaWithSha384, Oid.ecdsaWithSha224, Oid.ecdsaWithSha512]

/-- The hash functions that messages are digested with. -/
def digestHashes : List (Oid × HashFunction) := [
  (Oid.sha224WithRsa, .sha224), (Oid.ecdsaWithSha224, .sha224),
  (Oid.sha256WithRsa, .sha256), (Oid.ecdsaWithSha256, .sha256),
  (Oid.sha384WithRsa, .sha384), (Oid.ecdsaWithSha384, .sha384),
  (Oid.sha512WithRsa, .sha512), (Oid.ecdsaWithSha512, .sha512)]

/-- The hash functions that the padding of RSA signatures names. -/
def paddingHashes : List (Oid × HashFunction) := [
  (Oid.sha224WithRsa, .sha224),
  (Oid.sha256WithRsa, .sha256),
  (Oid.sha384WithRsa, .sha384),
  (Oid.sha512WithRsa, .sha512)]

/-- The hash function that a list has for an algorithm. -/
def hashIn (hashes : List (Oid × HashFunction)) (algorithm : Oid) : Except Error HashFunction :=
  match hashes.lookup algorithm with
  | some hash => .ok hash
  | none => .error .unrecognized

def digest (algorithm : Oid) (message : Octets) : Except Error Octets :=
  (hashIn digestHashes algorithm).map (·.digest message)

/-- The key is encoded first and read from that encoding, which has all of it. Only a key that was
put together by hand can be too long for that, since a key that was read is encoded in no more
octets than it was read from. -/
def verifyRsa (query : SignatureQuery) : Journaled (Except Error SignatureStatus) := do
  if query.key.algorithm.algorithm ≠ Oid.rsaEncryption then return .ok .invalid
  if query.key.toDer? = none then return .error (.asn1 (.unplaced .overflow))
  match Rsa.PublicKey.ofInfo query.key with
  | .error problem =>
    Journaled.log .error ("Failed to parse RSA public key: " ++ problem.text)
    return .error .parse
  | .ok key =>
    match digest query.algorithm.algorithm query.message with
    | .error e => return .error e
    | .ok digest =>
      match hashIn paddingHashes query.algorithm.algorithm with
      | .error e => return .error e
      | .ok hash => return .ok (.ofBool (Rsa.verify key hash digest query.signature))

def verifyEcdsa (query : SignatureQuery) : Journaled (Except Error SignatureStatus) := do
  if query.key.algorithm.algorithm ≠ Oid.ecPublicKey then return .ok .invalid
  match namedCurve? query.key.algorithm with
  | none => return .error .parse
  | some name =>
    match digest query.algorithm.algorithm query.message with
    | .error e => return .error e
    | .ok digest =>
      match Curve.ofOid? name with
      | none =>
        Journaled.log .error ("Unsupported named curve: " ++ name.toDotted)
        return .error .unrecognized
      | some curve =>
        match curve.ofOctets? query.key.key.octets with
        | none => return .error .parse
        | some point =>
          match Ecdsa.Signature.ofDer? curve query.signature with
          | none => return .ok .invalid
          | some signature => return .ok (.ofBool (Ecdsa.verify curve point digest signature))

def verifySignature (query : SignatureQuery) : Journaled (Except Error SignatureStatus) := do
  if query.algorithm.algorithm ∈ KeyFamily.rsa.algorithms then verifyRsa query
  else if query.algorithm.algorithm ∈ KeyFamily.ecdsa.algorithms then verifyEcdsa query
  else
    Journaled.log .debug
      ("Unsupported signature algorithm: " ++ query.algorithm.algorithm.toDotted)
    return .error .unrecognized

end Crypto

end TrustChain
