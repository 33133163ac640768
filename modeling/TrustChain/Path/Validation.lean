import TrustChain.Path
import TrustChain.Results
import TrustChain.Settings
import TrustChain.Verifier

/-!
# Path validation

A path is validated in four steps: names chain, signatures verify, certificates are valid at the
time of interest, and intermediates may issue certificates in the number there are. Each step looks
for the first violation in its order. The first violation of all ends validation; its status and the
position of its certificate are recorded.
-/

namespace TrustChain

/-- A computation that may fail, records results and keeps a journal. What has been recorded stays
recorded when it fails. -/
abbrev Check := ExceptT Error (StateT Results Journaled)

/-- A certificate that breaks a rule: what is logged about it, what is recorded, and the error that
validation ends with. -/
structure Violation where
  certificate : Certificate
  complaint : String
  status : Status
  index : Nat
  cause : Error

namespace Violation

/-- A violation whose error is its status. -/
def ofStatus (certificate : Certificate) (complaint : String) (status : Status) (index : Nat) :
    Violation :=
  ⟨certificate, complaint, status, index, .pathValidation status⟩

def raise : Option Violation → Check Unit
  | none => return
  | some v => do
    liftM (v.certificate.report v.complaint)
    modify (·.fail v.status v.index)
    throw v.cause

end Violation

namespace CertificationPath

/-! ### Names -/

/-- The first certificate whose issuer is not the subject of the next one. -/
def nameViolation? (path : CertificationPath) : Option Violation :=
  path.links.findSome? fun ((child, parent), i) =>
    if child.issuer.agrees parent.subject then none
    else
      some (.ofStatus child
        ("issuer name does not match subject name of next certificate: " ++ parent.subjectText)
        .nameChainingFailure i)

def checkNames (path : CertificationPath) : Check Unit := Violation.raise path.nameViolation?

/-! ### Signatures -/

/-- The first of some links whose signature is not valid. -/
def firstBadSignature (verifiers : Verifiers) :
    List ((Certificate × Certificate) × Nat) → Journaled (Option Violation)
  | [] => return none
  | ((child, parent), i) :: rest => do
    match ← verifiers.certificateSignature child parent with
    | .ok .valid => firstBadSignature verifiers rest
    | .ok .invalid =>
      return some (.ofStatus child "signature verification failure" .signatureVerificationFailure i)
    | .error e =>
      return some
        ⟨child, "signature verification error: " ++ e.message, .cryptoEvaluationFailure, i, e⟩

def checkSignatures (verifiers : Verifiers) (path : CertificationPath) : Check Unit := do
  Violation.raise (← liftM (firstBadSignature verifiers path.links))

/-! ### Validity -/

def datedCertificates (path : CertificationPath) (settings : Settings) : List Certificate :=
  if settings.enforceTrustAnchorValidity then path.certificates else path.certificates.dropLast

/-- The first certificate that is not valid at a time. -/
def validityViolation? (path : CertificationPath) (settings : Settings) (time : Nat) :
    Option Violation :=
  (path.datedCertificates settings).zipIdx.findSome? fun (c, i) =>
    match c.validity.check time with
    | .ok _ => none
    | .error status => some (.ofStatus c (c.validity.complaint status) status i)

def checkValidity (now : UInt64) (settings : Settings) (path : CertificationPath) : Check Unit :=
  let time := (settings.timeOfInterest now).toNat
  if time = 0 then
    liftM (Journaled.log .info
      "check_validity invoked with no time of interest; validity check disabled")
  else Violation.raise (path.validityViolation? settings time)

/-! ### Basic constraints -/

/-- The number of intermediates, self-issued ones not counted, that the settings and the trust
anchor allow. -/
def initialBudget (path : CertificationPath) (settings : Settings) : UInt8 :=
  if settings.enforceTrustAnchorConstraints then
    match path.trustAnchor.basicConstraints?.bind BasicConstraints.pathLength with
    | some limit => min settings.initialPathLength limit
    | none => settings.initialPathLength
  else settings.initialPathLength

/-- The first intermediate, taken from the trust anchor towards the target, that exceeds the number
of certificates the ones above it allow or that is not entitled to issue certificates. `budget` is
the number still allowed. -/
def firstUnentitled (budget : UInt8) : List (Certificate × Nat) → Option Violation
  | [] => none
  | (c, index) :: rest =>
    if !c.isSelfIssued && budget == 0 then
      some (.ofStatus c "path length constraint violation" .invalidPathLength index)
    else
      let budget := if c.isSelfIssued then budget else budget - 1
      match c.basicConstraints? with
      | none => some (.ofStatus c "missing basic constraints" .missingBasicConstraints index)
      | some constraints =>
        if constraints.ca then
          firstUnentitled ((constraints.pathLength.map (min budget)).getD budget) rest
        else some (.ofStatus c "invalid basic constraints" .invalidBasicConstraints index)

def constraintViolation? (path : CertificationPath) (settings : Settings) : Option Violation :=
  firstUnentitled (path.initialBudget settings) (path.intermediates.zipIdx 1).reverse

def checkBasicConstraints (settings : Settings) (path : CertificationPath) : Check Unit :=
  Violation.raise (path.constraintViolation? settings)

/-! ### All steps -/

def validate (verifiers : Verifiers) (now : UInt64) (settings : Settings)
    (path : CertificationPath) : Check Unit := do
  path.checkNames
  path.checkSignatures verifiers
  path.checkValidity now settings
  if settings.enforceBasicConstraints then path.checkBasicConstraints settings
  modify (·.setStatus .valid)
  liftM (Journaled.log .info
    ("Successfully completed path validation checks for certificate issued to " ++
      path.target.subjectText))

end CertificationPath

end TrustChain
