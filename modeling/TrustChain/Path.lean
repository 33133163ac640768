import TrustChain.Certificate

/-!
# Certification paths

A path leads from a target certificate through intermediates, each the issuer of the one before it,
to a trust anchor. A verified chain is the same sequence of certificates after validation.
-/

namespace TrustChain

/-- The certificates of a path. The first of the intermediates issued the target. -/
structure CertificationPath where
  trustAnchor : Certificate
  intermediates : List Certificate
  target : Certificate

namespace CertificationPath

/-- All certificates, target first and trust anchor last. -/
def certificates (path : CertificationPath) : List Certificate :=
  path.target :: path.intermediates ++ [path.trustAnchor]

def length (path : CertificationPath) : Nat := path.intermediates.length + 2

theorem length_certificates (path : CertificationPath) :
    path.certificates.length = path.length := by
  simp [certificates, length]

/-- Each certificate but the last with its issuer, and its position counted from the target. -/
def links (path : CertificationPath) : List ((Certificate × Certificate) × Nat) :=
  (path.certificates.zip path.certificates.tail).zipIdx

end CertificationPath

/-- A validated path as a sequence, target first and trust anchor last. -/
structure VerifiedChain where
  certificates : List Certificate
  nonempty : certificates ≠ []

namespace VerifiedChain

def ofPath (path : CertificationPath) : VerifiedChain :=
  ⟨path.certificates, by simp [CertificationPath.certificates]⟩

def target (chain : VerifiedChain) : Certificate := chain.certificates.head chain.nonempty

def trustAnchor (chain : VerifiedChain) : Certificate :=
  chain.certificates.getLast chain.nonempty

def targetKey (chain : VerifiedChain) : PublicKeyInfo := chain.target.publicKey

def length (chain : VerifiedChain) : Nat := chain.certificates.length

end VerifiedChain

end TrustChain
