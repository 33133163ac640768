import TrustChain.Verifier

/-!
# Pools

A pool of certificates is sorted into trust anchors, which are self-signed, and intermediates, which
are not. Of certificates with equal encodings only the first counts, and both lists keep the order
of the pool. A certificate whose signature cannot be evaluated belongs to neither, so it ends the
classification.
-/

namespace TrustChain

/-- An error, the certificate that was being looked at when it arose and, for a signature, the
certificate whose key was used. -/
structure Fault where
  error : Error
  certificate : Certificate
  issuer : Option Certificate

structure ClassifiedPool where
  trustAnchors : List Certificate
  intermediates : List Certificate

namespace ClassifiedPool

def empty : ClassifiedPool := ⟨[], []⟩

def length (pool : ClassifiedPool) : Nat := pool.trustAnchors.length + pool.intermediates.length

def isEmpty (pool : ClassifiedPool) : Bool :=
  pool.trustAnchors.isEmpty && pool.intermediates.isEmpty

def addTrustAnchor (c : Certificate) (pool : ClassifiedPool) : ClassifiedPool :=
  { pool with trustAnchors := c :: pool.trustAnchors }

def addIntermediate (c : Certificate) (pool : ClassifiedPool) : ClassifiedPool :=
  { pool with intermediates := c :: pool.intermediates }

/-- Classifies certificates whose encodings are not among those already seen. -/
def classifyUnseen (verifiers : Verifiers) (seen : List Octets) :
    List Certificate → Journaled (Except Fault ClassifiedPool)
  | [] => return .ok empty
  | c :: rest =>
    if c.encoding ∈ seen then classifyUnseen verifiers seen rest
    else do
      match ← verifiers.isSelfSigned c with
      | .error e => return .error ⟨e, c, none⟩
      | .ok true =>
        Journaled.log .debug ("Classified " ++ c.subjectText ++ " as a trust anchor")
        return (← classifyUnseen verifiers (c.encoding :: seen) rest).map (addTrustAnchor c)
      | .ok false =>
        Journaled.log .debug ("Classified " ++ c.subjectText ++ " as an intermediate")
        return (← classifyUnseen verifiers (c.encoding :: seen) rest).map (addIntermediate c)

def classify (verifiers : Verifiers) (pool : List Certificate) :
    Journaled (Except Fault ClassifiedPool) :=
  classifyUnseen verifiers [] pool

end ClassifiedPool

end TrustChain
