import TrustChain.Certificate.Checks
import TrustChain.Crypto.Verification

/-!
# Signature verifiers

A signature is put to a list of verifiers in turn, and the first that can evaluate it decides. When
none can, the last error stands. A certificate is self-signed when its own key verifies its
signature; names play no part in that.
-/

namespace TrustChain

/-- Something that can tell good signatures from bad ones. One that has a name is noted in the
journal whenever it is consulted. -/
structure SignatureVerifier where
  name : Option String
  evaluate : SignatureQuery → Journaled (Except Error SignatureStatus)

namespace SignatureVerifier

def consult (verifier : SignatureVerifier) (query : SignatureQuery) :
    Journaled (Except Error SignatureStatus) := do
  Journaled.note (verifier.name.map (.signature · query.key.key.octets query.signature))
  verifier.evaluate query

/-- The verifier for the algorithms that the library implements. -/
def builtin : SignatureVerifier := ⟨none, Crypto.verifySignature⟩

end SignatureVerifier

/-- Verifiers in the order in which they are asked. -/
abbrev Verifiers := List SignatureVerifier

namespace Verifiers

/-- The first answer of some verifiers, or their last error; `error` when there are none. -/
def answerOr (query : SignatureQuery) (error : Error) :
    Verifiers → Journaled (Except Error SignatureStatus)
  | [] => return .error error
  | verifier :: rest => do
    match ← verifier.consult query with
    | .ok status => return .ok status
    | .error e => answerOr query e rest

def answer (verifiers : Verifiers) (query : SignatureQuery) :
    Journaled (Except Error SignatureStatus) :=
  answerOr query .unrecognized verifiers

/-- Whether the key of `issuer` verifies the signature of `c`. A signature that is not made of whole
octets is not good. -/
def certificateSignature (verifiers : Verifiers) (c issuer : Certificate) :
    Journaled (Except Error SignatureStatus) := do
  match c.signature? with
  | none => return .ok .invalid
  | some signature =>
    match c.signedPortion with
    | .error e => return .error e
    | .ok message =>
      answer verifiers ⟨message, signature, c.signed.algorithm, issuer.publicKey⟩

/-- Whether a certificate is self-signed. -/
def isSelfSigned (verifiers : Verifiers) (c : Certificate) : Journaled (Except Error Bool) := do
  return (← verifiers.certificateSignature c c).map SignatureStatus.isValid

end Verifiers

end TrustChain
