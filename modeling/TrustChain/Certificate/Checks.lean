import TrustChain.Certificate
import TrustChain.Journal
import TrustChain.Name.Matching

/-!
# Checks of a single certificate

Whether a certificate is valid at a time, and whether it was issued by the holder of its own name.
A time of zero stands for no time: every certificate is valid at it.
-/

namespace TrustChain

namespace Validity

/-- The number of seconds left at a time within the period. The start of the period is looked at
before its end. -/
def check (validity : Validity) (time : Nat) : Except Status Nat :=
  if time = 0 then .ok 0
  else if time < validity.notBefore.seconds then .error .invalidNotBeforeDate
  else if validity.notAfter.seconds < time then .error .invalidNotAfterDate
  else .ok (validity.notAfter.seconds - time)

/-- The wording of a complaint that a time is outside the period. -/
def complaint (validity : Validity) : Status → String
  | .invalidNotBeforeDate =>
    "certificate is not yet valid relative to the configured time of interest: " ++
      validity.notBefore.text
  | _ =>
    "certificate is expired relative to the configured time of interest: " ++ validity.notAfter.text

end Validity

namespace Certificate

def report (c : Certificate) (complaint : String) : Journaled Unit :=
  Journaled.log .error
    ("Encountered error while processing certificate with subject " ++ c.subjectText ++ ": " ++
      complaint)

/-- Whether a certificate is valid at a time; a complaint is logged unless it is not wanted. -/
def validAt (c : Certificate) (time : Nat) (quiet : Bool) : Journaled (Except Status Nat) := do
  match c.validity.check time with
  | .ok left => return .ok left
  | .error status =>
    if quiet then return .error status
    else
      c.report (c.validity.complaint status)
      return .error status

/-- Whether the period of a certificate has ended. One that has not begun has not ended either. -/
def hasExpired (c : Certificate) (time : Nat) : Bool :=
  c.validity.check time matches .error .invalidNotAfterDate

/-- Whether the issuer of a certificate has the name of its subject. -/
def isSelfIssued (c : Certificate) : Bool := c.issuer.agrees c.subject

end Certificate

end TrustChain
