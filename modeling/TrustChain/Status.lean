/-!
# Verification statuses

The outcome of a check in detail, and the coarser kinds of failure that callers act on. Every status
other than `valid` belongs to one kind.
-/

namespace TrustChain

/-- What a caller is told about a failed verification. -/
inductive FailureKind where
  | absentCertificate
  | expired
  /-- The certificate to verify is signed with its own key. -/
  | selfSignedLeaf
  | noPathFound
  /-- A certificate does not chain to its issuer by name or by signature. -/
  | brokenChainLink
  /-- A certificate may not issue others, or too many of them are in a row. -/
  | constraintViolation
  /-- A signature could not be evaluated at all. -/
  | cryptoEvaluationFailure
  deriving DecidableEq, Repr

inductive Status where
  | valid
  | missingCertificate
  | invalidNotBeforeDate
  | invalidNotAfterDate
  | selfSignedTarget
  | noPathsFound
  | nameChainingFailure
  | signatureVerificationFailure
  | missingBasicConstraints
  | invalidBasicConstraints
  | invalidPathLength
  | cryptoEvaluationFailure
  deriving DecidableEq, Repr

namespace FailureKind

def text : FailureKind → String
  | absentCertificate => "AbsentCertificate"
  | expired => "Expired"
  | selfSignedLeaf => "SelfSignedLeaf"
  | noPathFound => "NoPathFound"
  | brokenChainLink => "BrokenChainLink"
  | constraintViolation => "ConstraintViolation"
  | cryptoEvaluationFailure => "CryptoEvaluationFailure"

end FailureKind

namespace Status

def kind? : Status → Option FailureKind
  | valid => none
  | missingCertificate => some .absentCertificate
  | invalidNotBeforeDate => some .expired
  | invalidNotAfterDate => some .expired
  | selfSignedTarget => some .selfSignedLeaf
  | noPathsFound => some .noPathFound
  | nameChainingFailure => some .brokenChainLink
  | signatureVerificationFailure => some .brokenChainLink
  | missingBasicConstraints => some .constraintViolation
  | invalidBasicConstraints => some .constraintViolation
  | invalidPathLength => some .constraintViolation
  | cryptoEvaluationFailure => some .cryptoEvaluationFailure

def text : Status → String
  | valid => "Valid"
  | missingCertificate => "MissingCertificate"
  | invalidNotBeforeDate => "InvalidNotBeforeDate"
  | invalidNotAfterDate => "InvalidNotAfterDate"
  | selfSignedTarget => "SelfSignedTarget"
  | noPathsFound => "NoPathsFound"
  | nameChainingFailure => "Name chaining failure"
  | signatureVerificationFailure => "Signature verification failure"
  | missingBasicConstraints => "MissingBasicConstraints"
  | invalidBasicConstraints => "InvalidBasicConstraints"
  | invalidPathLength => "InvalidPathLength"
  | cryptoEvaluationFailure => "CryptoEvaluationFailure"

/-- All statuses. -/
def all : List Status := [
  valid, missingCertificate, invalidNotBeforeDate, invalidNotAfterDate, selfSignedTarget,
  noPathsFound, nameChainingFailure, signatureVerificationFailure, missingBasicConstraints,
  invalidBasicConstraints, invalidPathLength, cryptoEvaluationFailure]

end Status

end TrustChain
