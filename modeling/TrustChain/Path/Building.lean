import TrustChain.Path
import TrustChain.Path.Search
import TrustChain.Settings

/-!
# Path building

Before a path is searched for, the target itself is checked: there has to be one, it has to be valid
at the time of interest, and it must not be self-signed. When the search finds no path, the reason
given is the first signature that could not be evaluated, if there was any, because a path may have
been missed on its account.
-/

namespace TrustChain

/-- Checks that there is a target and that a path may be searched for it. -/
def checkTarget (verifiers : Verifiers) (now : UInt64) (settings : Settings) :
    Option Certificate → Journaled (Except Error Certificate)
  | none => do
    Journaled.log .error "No target certificate was provided"
    return .error (.pathValidation .missingCertificate)
  | some target => do
    match ← target.validAt (settings.timeOfInterest now).toNat false with
    | .error status => return .error (.pathValidation status)
    | .ok _ =>
      match ← verifiers.isSelfSigned target with
      | .error e => return .error e
      | .ok true =>
        target.report "target certificate is self-signed"
        return .error (.pathValidation .selfSignedTarget)
      | .ok false => return .ok target

namespace CertificationPath

/-- Finds a path for a target that has been checked. -/
def find (verifiers : Verifiers) (settings : Settings) (target : Certificate)
    (pool : ClassifiedPool) : Journaled (Except Fault CertificationPath) := do
  let (ascent, search) := PathSearch.run verifiers settings.filterWhenBuilding pool target
  Journaled.enterAll search.journal
  match ascent with
  | some ⟨intermediates, trustAnchor⟩ =>
    Journaled.log .debug
      ("Found path for " ++ target.subjectText ++ " terminating at " ++ trustAnchor.subjectText)
    return .ok ⟨trustAnchor, intermediates, target⟩
  | none =>
    match search.fault? with
    | some fault =>
      Journaled.log .error
        ("No path found for " ++ target.subjectText ++
          "; signature evaluation failed during search: " ++ fault.error.message)
      return .error fault
    | none =>
      Journaled.log .error ("No path found for " ++ target.subjectText)
      return .error ⟨.pathValidation .noPathsFound, target, none⟩

/-- Checks a target and finds a path for it. -/
def build (verifiers : Verifiers) (now : UInt64) (settings : Settings)
    (target : Option Certificate) (pool : ClassifiedPool) :
    Journaled (Except Error CertificationPath) := do
  match ← checkTarget verifiers now settings target with
  | .error e => return .error e
  | .ok target => return (← find verifiers settings target pool).mapError Fault.error

end CertificationPath

end TrustChain
