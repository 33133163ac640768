import TrustChain.Environment
import TrustChain.Path.Building

/-!
# Verification of a certificate

Verification goes through all the steps: the target is checked, the pool is classified, a path is
found, and the path is validated. The first step that fails ends it. The error that callers get
names the certificate that was at fault and, for a link that does not hold, the certificate it was
to be linked to.

The time of interest is settled once at the beginning, so that all steps see the same time.
-/

namespace TrustChain

/-- A failed verification: its cause and the certificates concerned. -/
structure VerificationError where
  cause : Error
  /-- The subject of the certificate at fault, if there was a certificate at all. -/
  subject : Option String
  /-- The subject of the issuer, where the link to it is what failed. -/
  issuerSubject : Option String
  /-- The validity period of the certificate at fault, where the period is what failed. -/
  validity : Option Validity

namespace VerificationError

def kind (e : VerificationError) : FailureKind := e.cause.kind

def status? (e : VerificationError) : Option Status := e.cause.status?

/-- The error for a cause, a certificate at fault and the issuer it was to be linked to. Each kind
of failure keeps what explains it. -/
def ofCause (cause : Error) (certificate issuer : Option Certificate) : VerificationError where
  cause := cause
  subject := certificate.map Certificate.subjectText
  issuerSubject :=
    match cause.kind with
    | .brokenChainLink | .cryptoEvaluationFailure => issuer.map Certificate.subjectText
    | _ => none
  validity :=
    match cause.kind with
    | .expired => certificate.map Certificate.validity
    | _ => none

def ofFault (fault : Fault) : VerificationError :=
  ofCause fault.error fault.certificate fault.issuer

/-- The error for a path that does not validate. The certificate at fault is the recorded one, or
the target when none of the path is recorded. -/
def ofPath (cause : Error) (path : CertificationPath) (results : Results) : VerificationError :=
  let index := ((results.failedIndex?).filter (· < path.length)).getD 0
  ofCause cause path.certificates[index]? path.certificates[index + 1]?

def details (e : VerificationError) : String :=
  match e.subject with
  | none => ""
  | some subject =>
    " (certificate: " ++ subject ++
      (match e.issuerSubject with
      | none => ""
      | some issuer => "; issuer: " ++ issuer) ++
      (match e.validity with
      | none => ""
      | some validity =>
        "; not before: " ++ validity.notBefore.text ++ "; not after: " ++ validity.notAfter.text) ++
      ")"

def message (e : VerificationError) : String :=
  e.kind.text ++ ": " ++ e.cause.message ++ e.details

end VerificationError

namespace Environment

def verify (env : Environment) (now : UInt64) (settings : Settings) (target : Option Certificate)
    (pool : List Certificate) : Journaled (Except VerificationError VerifiedChain) := do
  let settings := settings.pin now
  match ← checkTarget env.verifiers now settings target with
  | .error e => return .error (.ofCause e target none)
  | .ok target =>
    match ← ClassifiedPool.classify env.verifiers pool with
    | .error fault => return .error (.ofFault fault)
    | .ok pool =>
      match ← CertificationPath.find env.verifiers settings target pool with
      | .error fault => return .error (.ofFault fault)
      | .ok path =>
        match ← (env.validatePath now settings path).run.run .empty with
        | (.error e, results) => return .error (.ofPath e path results)
        | (.ok (), _) =>
          Journaled.log .info
            ("Verified " ++ path.target.subjectText ++ " through " ++
              toString path.intermediates.length ++ " intermediate(s) to " ++
              path.trustAnchor.subjectText)
          return .ok (.ofPath path)

end Environment

end TrustChain
